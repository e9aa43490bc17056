import CaptureQueue.Toml.Scalar
import CaptureQueue.Toml.Value

/-! Tables that stand for dates. Their first key is a reserved one, under which a text tells the
date; what else is in them does not count. -/

set_option autoImplicit false
namespace CaptureQueue

namespace Toml

open Text (Reader isDigit valueOf)
open Text.Reader

/-- A time of the day, up to the end of the day itself. -/
def clockText : Reader Unit := do
  let _ ← field 2 0 24
  char ':'
  let _ ← field 2 0 59
  char ':'
  let _ ← field 2 0 60
  let _ ← optional (do char '.'; run1 (isDigit 10))

def zoneText : Reader Unit :=
  (do let _ ← satisfy fun c => c = 'Z' || c = 'z') <|> do
    let _ ← satisfy fun c => c = '+' || c = '-'
    let hours ← digits 2
    char ':'
    let minutes ← digits 2
    if 24 * 60 < 60 * valueOf 10 hours + valueOf 10 minutes then failure

/-- A date, a time or both, as a text tells them. It is less strict than in a document. -/
def dateText : Reader Unit :=
  (do
    let _ ← date
    let _ ← optional do
      let _ ← satisfy fun c => c = 'T' || c = 't' || c = ' '
      clockText
      optional zoneText) <|> clockText

end Toml

namespace TomlValue

/-- The key that makes a table stand for a date. -/
def dateKey : String := "$__toml_private_datetime"

/-- What a table that stands for a date holds under its first key. -/
def dateEntry? : List (String × TomlValue) → Option TomlValue
  | (key, v) :: _ => if key = dateKey then some v else none
  | [] => none

/-- The date that a value tells, if it is the text of one. -/
def dateOf? : TomlValue → Option TomlValue
  | .string s => (Toml.dateText.whole? s).map fun _ => .datetime s
  | _ => none

mutual

/-- The value with dates in the place of the tables that stand for them; there is none if one of
them tells no date. -/
def settled? : TomlValue → Option TomlValue
  | .table members =>
    match dateEntry? members with
    | some v => dateOf? v
    | none => (settledMembers? members).map .table
  | .array items => (settledItems? items).map .array
  | .headed items => (settledItems? items).map .headed
  | v => some v

def settledMembers? : List (String × TomlValue) → Option (List (String × TomlValue))
  | [] => some []
  | (key, v) :: rest => do return (key, ← settled? v) :: (← settledMembers? rest)

def settledItems? : List TomlValue → Option (List TomlValue)
  | [] => some []
  | v :: rest => do return (← settled? v) :: (← settledItems? rest)

end

end TomlValue
end CaptureQueue
