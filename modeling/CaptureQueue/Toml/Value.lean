/-! TOML values. Tables keep the order of their keys. -/

set_option autoImplicit false
namespace CaptureQueue

inductive TomlValue where
  | string (s : String)
  | integer (n : Int)
  | float (x : Float)
  | boolean (b : Bool)
  -- A date, a time or both, as written.
  | datetime (text : String)
  | array (items : List TomlValue)
  -- Tables that were written under headers of their own, one for each.
  | headed (items : List TomlValue)
  | table (members : List (String × TomlValue))
deriving Inhabited

namespace TomlValue

def kind : TomlValue → String
  | .string _ => "string"
  | .integer _ => "integer"
  | .float _ => "float"
  | .boolean _ => "boolean"
  | .datetime _ => "datetime"
  | .array _ | .headed _ => "array"
  | .table _ => "table"

/-- The greatest integer. -/
def maxInteger : Int := Int.pow 2 63 - 1

end TomlValue
end CaptureQueue
