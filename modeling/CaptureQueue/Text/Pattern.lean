import CaptureQueue.Text.Alphanumeric
import CaptureQueue.Text.Blank
import CaptureQueue.Text.Reader

/-! Patterns that a whole text may match. Of several ways to match, the one written first goes
first: as soon as it is through, the others are given up, and a text that goes on is not matched. -/

set_option autoImplicit false
namespace CaptureQueue.Text

inductive CharKind where
  | digit
  | word
  | blank
deriving DecidableEq, Repr

/-- Some characters of a class: a range, or all that are or are not of a kind. -/
inductive CharItem where
  | range (first last : Char)
  | kind (isOf : Bool) (kind : CharKind)
deriving DecidableEq, Repr

structure CharClass where
  items : List CharItem
  negated : Bool := false
deriving DecidableEq, Repr

namespace CharKind

def contains (c : Char) : CharKind → Bool
  | .digit => c.isDigit
  | .word => isAlphanumeric c || c = '_'
  | .blank => isBlank c

end CharKind

namespace CharItem

def contains (c : Char) : CharItem → Bool
  | .range first last => first ≤ c && c ≤ last
  | .kind isOf k => k.contains c == isOf

end CharItem

namespace CharClass

def single (c : Char) : CharClass := ⟨[.range c c], false⟩

def contains (k : CharClass) (c : Char) : Bool := k.items.any (·.contains c) != k.negated

end CharClass

inductive Pattern where
  | empty
  | one (k : CharClass)
  | atStart
  | atEnd
  | sequence (p q : Pattern)
  | either (p q : Pattern)
  -- Any number of times; as often as possible first, or as seldom.
  | repeated (often : Bool) (p : Pattern)
deriving DecidableEq, Repr

namespace Pattern

/-! ## Matching -/

-- What a pattern can do next, in order: take a character of a class and go on with another
-- pattern, or be through.
def moves (isFirst isLast : Bool) : Pattern → List (Option (CharClass × Pattern))
  | .empty => [none]
  | .one k => [some (k, .empty)]
  | .atStart => if isFirst then [none] else []
  | .atEnd => if isLast then [none] else []
  | .sequence p q =>
    (moves isFirst isLast p).flatMap fun
      | none => moves isFirst isLast q
      | some (k, rest) => [some (k, .sequence rest q)]
  | .either p q => moves isFirst isLast p ++ moves isFirst isLast q
  | .repeated often p =>
    let again := (moves isFirst isLast p).filterMap fun move =>
      move.map fun (k, rest) => some (k, .sequence rest (.repeated often p))
    if often then again ++ [none] else none :: again

def allMoves (isFirst isLast : Bool) (ps : List Pattern) : List (Option (CharClass × Pattern)) :=
  ps.flatMap (moves isFirst isLast)

-- What is left of the ways to match after a character; those after one that is through are
-- given up.
def advance (isFirst : Bool) (ps : List Pattern) (c : Char) : List Pattern :=
  (((allMoves isFirst false ps).takeWhile (·.isSome)).filterMap fun move =>
    move.bind fun (k, rest) => if k.contains c then some rest else none).eraseDups

def matchesFrom (isFirst : Bool) : List Pattern → List Char → Bool
  | ps, [] => (allMoves isFirst true ps).any (·.isNone)
  | ps, c :: rest => matchesFrom false (advance isFirst ps c) rest

def isMatch (p : Pattern) (s : String) : Bool := matchesFrom true [p] s.toList

/-! ## Reading -/

open Reader

def kindOf? (c : Char) : Option CharItem :=
  [('d', CharItem.kind true .digit), ('D', .kind false .digit), ('w', .kind true .word),
    ('W', .kind false .word), ('s', .kind true .blank), ('S', .kind false .blank)].lookup c

def escaped? (c : Char) : Option Char :=
  let controls :=
    [('n', '\n'), ('t', '\t'), ('r', '\r'), ('f', '\x0c'), ('v', '\x0b'), ('a', '\x07')]
  match controls.lookup c with
  | some d => some d
  | none => if c.toNat < 0x80 && !c.isAlphanum && c != '<' && c != '>' then some c else none

def escape : Reader Pattern := do
  char '\\'
  let c ← satisfy fun _ => true
  match kindOf? c, escaped? c with
  | some item, _ => return .one ⟨[item], false⟩
  | none, some d => return .one (.single d)
  | none, none => if c = 'A' then return .atStart else if c = 'z' then return .atEnd else failure

/-- One end of a range; a bracket has to be escaped. -/
def classChar : Reader Char :=
  (satisfy fun c => c != '[' && c != ']' && c != '\\') <|> do
    char '\\'
    match escaped? (← satisfy fun _ => true) with
    | some c => return c
    | none => failure

def classItem : Reader CharItem :=
  (do
    char '\\'
    match kindOf? (← satisfy fun _ => true) with
    | some item => return item
    | none => failure) <|> do
  let first ← classChar
  match ← optional (do char '-'; classChar) with
  | none => return .range first first
  | some last => if first ≤ last then return .range first last else failure

/-- Items in brackets; a bracket that comes first is one of them. -/
def charClass : Reader CharClass := do
  char '['
  let negated := (← optional (char '^')).isSome
  let bracket ← optional (char ']')
  let items ← many classItem
  char ']'
  let all := (bracket.map fun _ => CharItem.range ']' ']').toList ++ items
  if all.isEmpty then failure else return ⟨all, negated⟩

def isLiteral (c : Char) : Bool := !"()[.^$\\*+?|\x7b".toList.contains c

def atom (inner : Reader Pattern) : Reader Pattern :=
  (do
    char '('
    let _ ← optional (word ['?', ':'])
    let p ← inner
    char ')'
    return p) <|>
  (return .one (← charClass)) <|>
  (do char '.'; return .one ⟨[.range '\n' '\n'], true⟩) <|>
  (do char '^'; return .atStart) <|>
  (do char '$'; return .atEnd) <|>
  escape <|>
  (return .one (.single (← satisfy isLiteral)))

def repetition : Reader (Pattern → Pattern) := do
  let mark ← satisfy fun c => c = '*' || c = '+' || c = '?'
  let often := (← optional (char '?')).isNone
  return fun p =>
    if mark = '*' then .repeated often p
    else if mark = '+' then .sequence p (.repeated often p)
    else if often then .either p .empty
    else .either .empty p

def piece (inner : Reader Pattern) : Reader Pattern := do
  let p ← atom inner
  return (← many repetition).foldl (fun q repeatIt => repeatIt q) p

/-- A pattern whose groups nest at most so many deep. -/
def nested : (depth : Nat) → Reader Pattern
  | 0 => failure
  | depth + 1 => do
    let branch : Reader Pattern := return (← many (piece (nested depth))).foldr .sequence .empty
    let first ← branch
    let others ← many (do char '|'; branch)
    return (others.foldl (fun p q => .either p q) first)

def ofText? (s : String) : Option Pattern := (nested (s.length + 1)).whole? s

end Pattern
end CaptureQueue.Text
