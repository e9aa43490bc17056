import CaptureQueue.Fault
import CaptureQueue.Log
import CaptureQueue.Text.Pattern
import CaptureQueue.Text.Search

/-! Filters that select log records by the part of the program they come from, by the stretches of
work around them and by their fields. -/

set_option autoImplicit false
namespace CaptureQueue

/-- What a field has to hold. No number is ever noted, so that a number is never found. -/
inductive WantedValue where
  | truth (b : Bool)
  | number
  | pattern (p : Text.Pattern)
deriving DecidableEq, Repr

namespace WantedValue

open Text.Reader in
/-- Digits with a point or an exponent or neither, or the name of what is no finite number. -/
def decimal : Text.Reader Unit := do
  let digits := run (Text.isDigit 10)
  let sign := optional (satisfy fun c => c = '+' || c = '-')
  let _ ← sign
  word "infinity".toList <|> word "inf".toList <|> word "nan".toList <|> do
    let whole ← digits
    let part ← optional (do char '.'; digits)
    if whole.isEmpty && (part.getD []).isEmpty then failure
    let _ ← optional do
      char 'e'
      let _ ← sign
      run1 (Text.isDigit 10)

def isNumber (s : String) : Bool :=
  (decimal.whole? (String.ofList (Text.lowerAscii s.toList))).isSome

def ofText? (s : String) : Option WantedValue :=
  if s = "true" then some (.truth true)
  else if s = "false" then some (.truth false)
  else if isNumber s then some .number
  else (Text.Pattern.ofText? s).map .pattern

def isMetBy : WantedValue → NotedValue → Bool
  | .truth b, .truth c => b == c
  | .pattern p, .text s => p.isMatch s
  | _, _ => false

end WantedValue

/-- A field that has to be there, whatever it holds or with a value of its own. -/
structure WantedField where
  name : String
  value : Option WantedValue := none
deriving DecidableEq, Repr

namespace WantedField

/-- Reads a name, or a name and a value; what comes after a second `=` is passed over. -/
def ofText? (s : String) : Option WantedField :=
  match Text.pieces '=' s with
  | name :: value :: _ => (WantedValue.ofText? value).map fun v => { name := name, value := some v }
  | names => some { name := names.headD "" }

def isMetBy (f : WantedField) (span : LogSpan) : Bool :=
  match span.notes.lookup f.name, f.value with
  | none, _ => false
  | some _, none => true
  | some noted, some wanted => wanted.isMetBy noted

end WantedField

/-- What a filter says of some records: the gravity they need at least, or that none is let through.
The records come from parts of the program whose paths begin with the target. If a stretch of work
or a field is named, they are those around which such a stretch goes on. -/
structure LogDirective where
  target : Option String := none
  span : Option String := none
  field : Option WantedField := none
  level : Option Level := some .trace
deriving DecidableEq, Repr

namespace LogDirective

/-- Whether it lets records of a level through. -/
def admits (d : LogDirective) (level : Level) : Bool :=
  d.level.any fun least => level.rank ≤ least.rank

def isDynamic (d : LogDirective) : Bool := d.span.isSome || d.field.isSome

-- Whether it selects records by themselves. A field without a value is looked for both ways.
def isStatic (d : LogDirective) : Bool := d.span.isNone && d.field.all (·.value.isNone)

def selectsOrigin (d : LogDirective) (origin : Origin) : Bool :=
  d.target.all fun target => target.toList.isPrefixOf origin.path.toList

/-- Every record has a message besides its fields. -/
def selectsRecord (d : LogDirective) (r : LogRecord) : Bool :=
  d.isStatic && d.selectsOrigin r.origin &&
    d.field.all fun f => f.name = "message" || (r.fields.lookup f.name).isSome

def selectsSpan (d : LogDirective) (span : LogSpan) : Bool :=
  d.isDynamic && d.selectsOrigin span.origin && d.span.all (· == span.name) &&
    d.field.all (·.isMetBy span)

def selectsAs (d e : LogDirective) : Bool :=
  d.target == e.target && d.span == e.span && d.field == e.field

/-- The length of the target, none being shorter than an empty one, and whether a field counts. -/
def precision (d : LogDirective) : Nat × Nat :=
  ((d.target.map (·.utf8ByteSize + 1)).getD 0, if d.field.isSome then 1 else 0)

def goesBefore (d e : LogDirective) : Bool :=
  let name (d : LogDirective) : String := (d.field.map (·.name)).getD ""
  let (p, q) := (d.precision, e.precision)
  q.1 < p.1 || (p.1 = q.1 && (q.2 < p.2 || (p.2 = q.2 && name e < name d)))

end LogDirective

/-! ## Reading directives -/

inductive DirectiveError where
  | unreadable
  -- A part of it would begin or end inside a character.
  | torn
deriving DecidableEq, Repr

namespace LogDirective

def dropBytes : Nat → List Char → Option (List Char)
  | 0, cs => some cs
  | _ + 1, [] => none
  | n + 1, c :: cs => if c.utf8Size ≤ n + 1 then dropBytes (n + 1 - c.utf8Size) cs else none
termination_by n => n
decreasing_by exact Nat.sub_lt (Nat.succ_pos n) c.utf8Size_pos

def takeBytes (n : Nat) (cs : List Char) : Option (List Char) :=
  (dropBytes n cs).map fun rest => cs.take (cs.length - rest.length)

def slice (cs : List Char) (first : Nat) (last : Option Nat) : Except DirectiveError String :=
  let found := (dropBytes first cs).bind fun rest =>
    match last with
    | none => some rest
    | some last => takeBytes (last - first) rest
  match found with
  | some part => .ok (String.ofList part)
  | none => .error .torn

/-- Reads the name or the number of a level; zero and `off` let nothing through. -/
def levelOf? (s : String) : Option (Option Level) :=
  match Level.ofText? s with
  | some level => some (some level)
  | none =>
    if Text.number? 10 (Nat.pow 2 64) s.toList = some 0 ∨ Text.lowerAscii s.toList = "off".toList then
      some none
    else none

/-- The level after a target; an empty one lets everything through. -/
def levelAfter (s : String) : Except DirectiveError (Option Level) :=
  if s.isEmpty then .ok (some .trace)
  else
    match levelOf? s with
    | some level => .ok level
    | none => .error .unreadable

inductive Stage where
  | start
  | word (first : Nat)
  | span (first : Nat)
  | field (first : Nat)
  | fields
  | target
  | level (first : Nat)
deriving DecidableEq, Repr

def mayStart (c : Char) : Bool := c = '-' || c = ':' || c = '_' || Text.isAlphanumeric c

/-- Goes on with one character, `n` bytes after the start. Parts are cut out of `text`. -/
def step (text : List Char) (n : Nat) (c : Char) :
    Stage → LogDirective → Except DirectiveError (Stage × LogDirective)
  | .start, d =>
    if c = '[' then .ok (.span (n + 1), d)
    else if mayStart c then .ok (.word n, d)
    else .error .unreadable
  | .word first, d =>
    if c = '=' then do
      return (.level (n + 1), { d with target := some (← slice text first (some n)) })
    else if c = '[' then do
      return (.span (n + 1), { d with target := some (← slice text first (some n)) })
    else .ok (.word first, d)
  | .target, d => if c = '=' then .ok (.level (n + 1), d) else .error .unreadable
  | .span first, d =>
    if c = ']' then do
      return (.target, { d with span := some (← slice text first (some n)) })
    else if c = '\x7b' then do
      let name ← slice text first (some n)
      return (.field (n + 1), { d with span := if name.isEmpty then none else some name })
    else .ok (.span first, d)
  | .field first, d =>
    if c = '\x7d' then do
      let part ← slice text first (some n)
      match if part.isEmpty then none else WantedField.ofText? part with
      | some field => return (.fields, { d with field := some field })
      | none => .error .unreadable
    else .ok (.field first, d)
  | .fields, d => if c = ']' then .ok (.target, d) else .error .unreadable
  | .level first, d => .ok (.level first, d)

def steps (text : List Char) : Nat → Stage → LogDirective → List Char →
    Except DirectiveError (Stage × LogDirective)
  | _, stage, d, [] => .ok (stage, d)
  | n, stage, d, c :: rest => do
    let (stage, d) ← step text n c stage d
    steps text (n + c.utf8Size) stage d rest

/-- What is read when the text is over; a word alone is a level if it can be one. -/
def finish (text : List Char) : Stage → LogDirective → Except DirectiveError LogDirective
  | .word first, d => do
    let word ← slice text first none
    match levelOf? word with
    | some level => return { d with level := level }
    | none => return { d with target := some word }
  | .level first, d => do return { d with level := ← levelAfter (← slice text first none) }
  | .target, d => .ok d
  | _, _ => .error .unreadable

-- Reads a level, or a target, a stretch of work and a level as in
-- `target[span{field=value}]=level`. Blanks around it are passed over when the parts are counted, but
-- the parts are cut out of the text as it was.
def ofText (s : String) : Except DirectiveError LogDirective := do
  let (stage, d) ← steps s.toList 0 .start {} (Text.trim s.toList)
  finish s.toList stage d

end LogDirective

/-! ## Filters -/

/-- Directives in the order in which they were written. -/
structure LogFilter where
  directives : List LogDirective
deriving DecidableEq, Repr

namespace LogFilter

def tornDirective : Fault := .ofText "a directive of the log filter is torn"

/-- Reads directives one by one. What cannot be read is passed over. -/
def readAll : List String → Except Fault (List LogDirective)
  | [] => .ok []
  | s :: rest =>
    match LogDirective.ofText s with
    | .ok d => return d :: (← readAll rest)
    | .error .unreadable => readAll rest
    | .error .torn => .error tornDirective

/-- Reads directives parted by commas; if there are none, the filter goes by a level alone. -/
def ofText (s : String) (default : Level) : Except Fault LogFilter := do
  match ← readAll ((Text.pieces ',' s).filter (· != "")) with
  | [] => return ⟨[{ level := some default }]⟩
  | directives => return ⟨directives⟩

/-- The directives that count: of those that select the same, the last. -/
def counted : List LogDirective → List LogDirective
  | [] => []
  | d :: rest => if rest.any (·.selectsAs d) then counted rest else d :: counted rest

/-- Whether a stretch of work lets records of a level through that are emitted in it. -/
def admitsWithin (f : LogFilter) (span : LogSpan) (level : Level) : Bool :=
  (counted f.directives).any fun d => d.selectsSpan span && d.admits level

/-- The most precise directive that selects a record by itself. -/
def directive? (f : LogFilter) (r : LogRecord) : Option LogDirective :=
  ((counted f.directives).filter (·.selectsRecord r)).foldl
    (fun best d => if best.all fun e => d.goesBefore e then some d else best) none

def admits (f : LogFilter) (r : LogRecord) : Bool :=
  r.spans.any (f.admitsWithin · r.level) || (f.directive? r).any (·.admits r.level)

end LogFilter
end CaptureQueue
