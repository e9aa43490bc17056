import CaptureQueue.Decimal
import CaptureQueue.Text.Quoted
import CaptureQueue.Toml.Value

/-! Why a TOML value is not of the shape that is wanted, and which part of it is not. -/

set_option autoImplicit false
namespace CaptureQueue

inductive FoundValue where
  | string (s : String)
  | integer (n : Int)
  | float (x : Float)
  | boolean (b : Bool)
  | sequence
  | map
  | unitVariant

namespace FoundValue

def ofToml : TomlValue → FoundValue
  | .string s => .string s
  | .integer n => .integer n
  | .float x => .float x
  | .boolean b => .boolean b
  | .array _ | .headed _ => .sequence
  | .datetime _ | .table _ => .map

def text : FoundValue → String
  | .string s => "string " ++ Text.quoted s
  | .integer n => s!"integer `{n}`"
  | .float x => "floating point `" ++ Decimal.shortest x ++ "`"
  | .boolean b => s!"boolean `{b}`"
  | .sequence => "sequence"
  | .map => "map"
  | .unitVariant => "unit variant"

end FoundValue

inductive DecodeError where
  | invalidType (found : FoundValue) (expected : String)
  | invalidValue (found : Int) (expected : String)
  | unknownVariant (name : String) (known : List String)
  | missingField (name : String)
  | tooShort (length : Nat) (expected : String)
  | invalidAddress
  | invalidDate
  | notStringOrTable
  | noVariant
  | severalVariants
  -- A variant without content was given some.
  | contentNotTable (kind : String)
  | contentNotEmpty (expected : String)

namespace DecodeError

def message : DecodeError → String
  | .invalidType found expected => "invalid type: " ++ found.text ++ ", expected " ++ expected
  | .invalidValue found expected => s!"invalid value: integer `{found}`, expected " ++ expected
  | .unknownVariant name known =>
    "unknown variant `" ++ name ++ "`, expected one of " ++
      ", ".intercalate (known.map fun k => "`" ++ k ++ "`")
  | .missingField name => "missing field `" ++ name ++ "`"
  | .tooShort length expected => s!"invalid length {length}, expected " ++ expected
  | .invalidAddress => "invalid IP address syntax"
  | .invalidDate => "invalid datetime"
  | .notStringOrTable => "wanted string or table"
  | .noVariant => "wanted exactly 1 element, found 0 elements"
  | .severalVariants => "wanted exactly 1 element, more than 1 element"
  | .contentNotTable kind => "expected table, found " ++ kind
  | .contentNotEmpty expected => "expected empty " ++ expected

end DecodeError

inductive TomlStep where
  | key (name : String)
  | field (name : String)
  | choice (name : String)
  | item (index : Nat)
deriving DecidableEq, Repr

/-- An error, and the way to the part of the value that it is about. -/
structure DecodeFailure where
  path : List TomlStep := []
  cause : DecodeError

namespace DecodeFailure

def message (f : DecodeFailure) : String := f.cause.message

end DecodeFailure
end CaptureQueue
