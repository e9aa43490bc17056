import CaptureQueue.Toml.Located
import CaptureQueue.Toml.Quoted
import CaptureQueue.Toml.Scalar

/-! The reader of TOML documents. Values are read by the grammar; keys and headers are then carried
out one after the other on a table under construction. Everything keeps its place in the text. -/

set_option autoImplicit false
namespace CaptureQueue.Toml

open Text (Reader Span)
open Text.Reader

/-! ## Tables under construction -/

/-- How a table came about: by a header or braces of its own, with the place of the header and what
is under it, by a longer header, or by a dotted key. -/
inductive TableOrigin where
  | own (span : Span)
  | implied
  | dotted
deriving DecidableEq, Repr

namespace TableOrigin

def span? : TableOrigin → Option Span
  | .own span => some span
  | _ => none

/-- A header reaches to the end of the last value under it. -/
def upTo (last : Span) : TableOrigin → TableOrigin
  | .own span => .own (span.through last)
  | origin => origin

end TableOrigin

inductive Node where
  | value (v : Located)
  | table (origin : TableOrigin) (members : List (Key × Node))
  | headed (tables : List (TableOrigin × List (Key × Node)))

abbrev Members : Type := List (Key × Node)

/-- What is done to a table with its origin, where it can be done. -/
abbrev Change : Type := TableOrigin → Members → Option (TableOrigin × Members)

namespace Members

def node? (ms : Members) (key : Key) : Option Node :=
  (List.find? (·.1.name == key.name) ms).map (·.2)

/-- The key stays where it is. -/
def replace (ms : Members) (key : Key) (node : Node) : Members :=
  ms.map fun m => if m.1.name == key.name then (m.1, node) else m

def add (ms : Members) (key : Key) (node : Node) : Members := ms ++ [(key, node)]

-- Goes down a path and changes the table at its end, making tables that are not there yet; of
-- tables under headers of their own it takes the last. A dotted key does not go through tables that
-- have a header or braces of their own.
def alter (dotted : Bool) (change : Change) : List Key → Change
  | [], origin, ms => change origin ms
  | key :: path, origin, ms => do
    match ms.node? key with
    | none =>
      let (made, inner) ← alter dotted change path (if dotted then .dotted else .implied) []
      return (origin, ms.add key (.table made inner))
    | some (.value _) => none
    | some (.headed tables) =>
      let (lastOrigin, last) ← tables.getLast?
      let last ← alter dotted change path lastOrigin last
      return (origin, ms.replace key (.headed (tables.dropLast ++ [last])))
    | some (.table found inner) =>
      if dotted && found.span?.isSome then none
      else
        let (found, inner) ← alter dotted change path found inner
        return (origin, ms.replace key (.table found inner))

/-- A key is set once. At the end of a dotted key there has to be a table made by dotted keys. -/
def setKey (path : List Key) (key : Key) (v : Located) : Change :=
  alter true (fun origin ms =>
    if !path.isEmpty && origin ≠ .dotted then none
    else if (ms.node? key).isSome then none
    else some (origin, ms.add key (.value v))) path

-- A header for a table that is not there, or was only implied so far; it then moves to the end.
def openTable (span : Span) (key : Key) : Change := fun origin ms =>
  match ms.node? key with
  | none => some (origin, ms.add key (.table (.own span) []))
  | some (.table .implied inner) =>
    some (origin, add (ms.filter (·.1.name != key.name)) key (.table (.own span) inner))
  | _ => none

/-- A header for one more table under the same key. -/
def openHeaded (span : Span) (key : Key) : Change := fun origin ms =>
  match ms.node? key with
  | none => some (origin, ms.add key (.headed [(.own span, [])]))
  | some (.headed tables) =>
    some (origin, ms.replace key (.headed (tables ++ [(.own span, [])])))
  | _ => none

end Members

/-- From the first of several tables to the end of the last. -/
def spanOfTables (tables : List (TableOrigin × List (Key × Node))) : Option Span := do
  let (first, _) ← tables.head?
  let (last, _) ← tables.getLast?
  return (← first.span?).through (← last.span?)

mutual

def Node.located : Node → Located
  | .value v => v
  | .table origin members => .table origin.span? (locatedMembers members)
  | .headed tables => .headed (spanOfTables tables) (locatedTables tables)

def locatedMembers : List (Key × Node) → List (Key × Located)
  | [] => []
  | (key, node) :: rest => (key, node.located) :: locatedMembers rest

def locatedTables : List (TableOrigin × List (Key × Node)) → List Located
  | [] => []
  | (origin, members) :: rest => .table origin.span? (locatedMembers members) :: locatedTables rest

end

/-! ## The grammar -/

/-- Arrays and braces nest less than so many deep, and dotted keys have fewer parts. -/
def depthLimit : Nat := 80

def comment : Reader Unit := do
  char '#'
  let _ ← run isPlain

def keyPart : Reader Key := do
  let (cs, span) ← spanned (basicString <|> literalString <|> run1 isBareKey)
  return ⟨String.ofList cs, span⟩

/-- A key by its parts; the last is apart from those before it. -/
def key : Reader (List Key × Key) := do
  let parts ← separated (char '.') do
    spaces
    let part ← keyPart
    spaces
    return part
  match parts.getLast? with
  | some last => if parts.length < depthLimit then return (parts.dropLast, last) else failure
  | none => failure

/-- Blanks, line breaks and comments between the items of an array. -/
def gap : Reader Unit := do
  let _ ← many ((do let _ ← run1 isSpace) <|> lineBreak <|> (do comment; lineBreak))

def arrayOf (item : Reader Located) : Reader (List Located) := do
  char '['
  let items ← separated (char ',') do
    gap
    let v ← item
    gap
    return v
  if !items.isEmpty then
    let _ ← optional (char ',')
  gap
  char ']'
  return items

structure Assignment where
  path : List Key
  key : Key
  value : Located

def assignment (item : Reader Located) : Reader Assignment := do
  let (path, last) ← key
  char '='
  spaces
  return ⟨path, last, ← item⟩

def Assignment.carryOut (a : Assignment) : Change := Members.setKey a.path a.key a.value

/-- Carries assignments out on an empty table, which has braces of its own. -/
def assignAll (span : Span) (assignments : List Assignment) : Option Members :=
  (·.2) <$> assignments.foldlM (fun (origin, ms) a => a.carryOut origin ms) (.own span, [])

def bracesOf (item : Reader Located) : Reader (List Assignment) := do
  char '\x7b'
  let assignments ← separated (char ',') do
    let a ← assignment item
    spaces
    return a
  spaces
  char '\x7d'
  return assignments

def scalar : Reader TomlValue :=
  (return .string (String.ofList (← quotedString))) <|>
  (return .datetime (String.ofList (← datetime))) <|>
  (return .float (← float)) <|>
  (return .integer (← integer)) <|>
  (return .boolean (← boolean))

def locatedArray (item : Reader Located) : Reader Located := do
  let (items, span) ← spanned (arrayOf item)
  return .array span items

def locatedBraces (item : Reader Located) : Reader Located := do
  let (assignments, span) ← spanned (bracesOf item)
  match assignAll span assignments with
  | some members => return .table (some span) (locatedMembers members)
  | none => failure

def locatedScalar : Reader Located := do
  let (v, span) ← spanned scalar
  return .scalar span v

/-- A value in which arrays and braces nest at most so many deep. -/
def value : (depth : Nat) → Reader Located
  | 0 => locatedScalar
  | depth + 1 => locatedArray (value depth) <|> locatedBraces (value depth) <|> locatedScalar

inductive Line where
  | blank
  | table (span : Span) (path : List Key) (key : Key)
  | headed (span : Span) (path : List Key) (key : Key)
  | assignment (a : Assignment)

def header : Reader Line :=
  (do
    let ((path, last), span) ← spanned do
      word ['[', '[']
      let k ← key
      word [']', ']']
      return k
    return .headed span path last) <|> do
  let ((path, last), span) ← spanned do
    char '['
    let k ← key
    char ']'
    return k
  return .table span path last

def line : Reader Line := do
  spaces
  let found ← header <|> (return .assignment (← assignment (value (depthLimit - 1)))) <|>
    pure .blank
  spaces
  let _ ← optional comment
  return found

/-- Lines, the last of which may lack its line break. -/
def lines : Reader (List Line) := separated lineBreak line

/-! ## Carrying out lines -/

/-- The document so far, and the path to the table that keys now belong to. -/
structure Draft where
  root : Members := []
  current : List Key := []

namespace Draft

def alter (d : Draft) (path : List Key) (change : Change) : Option Members :=
  (·.2) <$> Members.alter false change path .implied d.root

def carryOut (d : Draft) : Line → Option Draft
  | .blank => some d
  | .table span path last => do
    return { root := ← d.alter path (Members.openTable span last), current := path ++ [last] }
  | .headed span path last => do
    return { root := ← d.alter path (Members.openHeaded span last), current := path ++ [last] }
  | .assignment a => do
    let root ← d.alter d.current fun origin ms => do
      let (origin, ms) ← a.carryOut origin ms
      return (a.value.span?.elim origin origin.upTo, ms)
    return { d with root := root }

end Draft

/-- A mark at the start of a text that tells its encoding is no part of the document. -/
def withoutMark : List Char → List Char
  | c :: rest => if c.toNat = 0xFEFF then rest else c :: rest
  | [] => []

def document? (s : String) : Option (List (Key × Located)) := do
  let found ← lines.whole? (String.ofList (withoutMark s.toList))
  let d ← found.foldlM Draft.carryOut {}
  return locatedMembers d.root

end CaptureQueue.Toml
