import CaptureQueue.Text.Span

/-! Readers of the front of a text. A reader gives what it found and the rest of the text, or
nothing; a choice between two goes back to the start before the second. -/

set_option autoImplicit false
namespace CaptureQueue.Text

abbrev Reader (α : Type) : Type := StateT (List Char) Option α

namespace Reader

variable {α : Type}

def char (c : Char) : Reader Unit := fun s =>
  match s with
  | d :: rest => if d = c then some ((), rest) else none
  | [] => none

def satisfy (p : Char → Bool) : Reader Char := fun s =>
  match s with
  | c :: rest => if p c then some (c, rest) else none
  | [] => none

def word : List Char → Reader Unit
  | [] => pure ()
  | c :: cs => do
    char c
    word cs

def run (p : Char → Bool) : Reader (List Char) := fun s => some (s.takeWhile p, s.dropWhile p)

def run1 (p : Char → Bool) : Reader (List Char) := do
  let cs ← run p
  if cs.isEmpty then failure else return cs

/-- Whether the reader would succeed; nothing is taken. -/
def sees (r : Reader α) : Reader Bool := fun s => some ((r s).isSome, s)

def atEnd : Reader Unit := fun s => if s.isEmpty then some ((), s) else none

def manyWithin (r : Reader α) : Nat → Reader (List α)
  | 0 => pure []
  | fuel + 1 => do
    match ← optional r with
    | none => return []
    | some a => return a :: (← manyWithin r fuel)

/-- As many as there are, each of which takes at least one character. -/
def many (r : Reader α) : Reader (List α) := fun s => manyWithin r s.length s

def separated (separator : Reader Unit) (r : Reader α) : Reader (List α) := do
  match ← optional r with
  | none => return []
  | some a => return a :: (← many (do separator; r))

/-- What the reader finds, with the part of the text that it takes. -/
def spanned (r : Reader α) : Reader (α × Span) := fun s => do
  let (a, rest) ← r s
  return ((a, ⟨s.length, rest.length⟩), rest)

def whole? (r : Reader α) (s : String) : Option α :=
  ((do let a ← r; atEnd; return a : Reader α) s.toList).map (·.1)

end Reader
end CaptureQueue.Text
