import CaptureQueue.Text.Span
import CaptureQueue.Toml.DecodeError
import CaptureQueue.Toml.Value

/-! TOML values with the parts of the text that they were read from, and the part that an error
is about. -/

set_option autoImplicit false
namespace CaptureQueue.Toml

open Text (Span)

structure Key where
  name : String
  span : Span
deriving DecidableEq, Repr

/-- A value where it was read. A table that only dotted keys or longer headers made has no place of
its own. -/
inductive Located where
  | scalar (span : Span) (v : TomlValue)
  | array (span : Span) (items : List Located)
  | headed (span : Option Span) (tables : List Located)
  | table (span : Option Span) (members : List (Key × Located))

namespace Located

mutual

def value : Located → TomlValue
  | .scalar _ v => v
  | .array _ items => .array (values items)
  | .headed _ tables => .headed (values tables)
  | .table _ members => .table (memberValues members)

def values : List Located → List TomlValue
  | [] => []
  | v :: rest => v.value :: values rest

def memberValues : List (Key × Located) → List (String × TomlValue)
  | [] => []
  | (key, v) :: rest => (key.name, v.value) :: memberValues rest

end

def span? : Located → Option Span
  | .scalar span _ | .array span _ => some span
  | .headed span _ | .table span _ => span

def member? (name : String) : Located → Option (Key × Located)
  | .table _ members => members.find? (·.1.name == name)
  | _ => none

def item? (index : Nat) : Located → Option Located
  | .array _ items | .headed _ items => items[index]?
  | _ => none

-- Where the end of a path is. What has no place of its own is told by the key of the field that it
-- is in, or else by the place of what is around it.
def spanAt? (around : Option Span) (v : Located) : List TomlStep → Option Span
  | [] => v.span? <|> around
  | step :: path =>
    let here := v.span? <|> around
    match step with
    | .key name => (v.member? name).map (·.1.span) <|> here
    | .field name =>
      match v.member? name with
      | some (key, inner) => spanAt? (some key.span) inner path
      | none => here
    | .choice name =>
      match v.member? name with
      | some (_, inner) => spanAt? here inner path
      | none => here
    | .item index =>
      match v.item? index with
      | some inner => spanAt? here inner path
      | none => here

end Located
end CaptureQueue.Toml
