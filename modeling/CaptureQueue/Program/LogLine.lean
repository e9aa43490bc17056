import CaptureQueue.Json
import CaptureQueue.Program.Invocation
import CaptureQueue.Log

/-! Log records as lines. -/

set_option autoImplicit false
namespace CaptureQueue.LogRecord

def toJson (r : LogRecord) : Json :=
  let fields := r.fields.map fun (key, value) => (key, Json.string value)
  .object [
    ("level", .string r.level.name),
    ("fields", .object (("message", .string r.message) :: fields)),
    ("target", .string r.origin.path)]

def fieldsText (r : LogRecord) : String :=
  String.join (r.fields.map fun (key, value) => " " ++ key ++ "=" ++ value)

/-- The compact layout leaves out which part of the program speaks. -/
def line (format : LogFormat) (r : LogRecord) : String :=
  match format with
  | .json => r.toJson.compact
  | .text => r.level.name ++ " " ++ r.origin.path ++ ": " ++ r.message ++ r.fieldsText
  | .compact => r.level.name ++ " " ++ r.message ++ r.fieldsText

end CaptureQueue.LogRecord
