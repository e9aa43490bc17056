import CaptureQueue.Address.Text
import CaptureQueue.Config
import CaptureQueue.Toml.Print

/-! Writing a configuration as TOML. What has no value is left out. -/

set_option autoImplicit false
namespace CaptureQueue

inductive EncodeError where
  | integerTooLarge
  | interfaceNotName (found : String)
deriving DecidableEq, Repr

namespace EncodeError

def message : EncodeError → String
  | .integerTooLarge => "out-of-range value for u64 type"
  | .interfaceNotName found => "interface is a " ++ found ++ ", not a name"

def toError (e : EncodeError) : CaptureError := .unwritableConfig e.message

end EncodeError

namespace Toml

def natural (n : Nat) : Except EncodeError TomlValue :=
  if (n : Int) ≤ TomlValue.maxInteger then .ok (.integer n) else .error .integerTooLarge

def optionalEntry {α : Type} (key : String) (encode : α → Except EncodeError TomlValue) :
    Option α → Except EncodeError (List (String × TomlValue))
  | none => .ok []
  | some a => return [(key, ← encode a)]

end Toml

namespace InterfaceRequest

def toToml : InterfaceRequest → Except EncodeError TomlValue
  | .name s => .ok (.string s)
  | .invalid found => .error (.interfaceNotName found)

end InterfaceRequest

namespace LengthRange

def toToml (r : LengthRange) : Except EncodeError TomlValue :=
  return .table ((← Toml.optionalEntry "min" Toml.natural r.min) ++
    (← Toml.optionalEntry "max" Toml.natural r.max))

end LengthRange

namespace FilterRule

mutual

def toToml : FilterRule → Except EncodeError TomlValue
  | .protocol p => .ok (.table [("protocol", .string p.name)])
  | .port n => .ok (.table [("port", .integer n.toNat)])
  | .host a => .ok (.table [("host", .string a.text)])
  | .length r => return .table [("length", ← r.toToml)]
  | .all rules => return .table [("all", .array (← toTomls rules))]
  | .any rules => return .table [("any", .array (← toTomls rules))]
  | .not rule => return .table [("not", ← toToml rule)]

def toTomls : List FilterRule → Except EncodeError (List TomlValue)
  | [] => .ok []
  | rule :: rules => do
    let v ← toToml rule
    let vs ← toTomls rules
    return v :: vs

end

end FilterRule

namespace NamedRule

def toToml (f : NamedRule) : Except EncodeError TomlValue :=
  return .table [("name", .string f.name), ("rule", ← f.rule.toToml)]

end NamedRule

namespace CaptureSettings

def toToml (s : CaptureSettings) : Except EncodeError TomlValue := do
  let interface ← Toml.optionalEntry "interface" InterfaceRequest.toToml s.interface
  return .table (interface ++
    [("promiscuous", .boolean s.promiscuous), ("snaplen", ← Toml.natural s.snaplen),
      ("read_timeout_ms", ← Toml.natural s.readTimeout)])

end CaptureSettings

namespace QueueSettings

def toToml (s : QueueSettings) : Except EncodeError TomlValue :=
  return .table [("capacity", ← Toml.natural s.capacity),
    ("drop_strategy", .string s.dropStrategy.name)]

end QueueSettings

namespace LoggingSettings

def toToml (s : LoggingSettings) : TomlValue :=
  .table ([("level", .string s.level)] ++
    (s.file.toList.map fun file => ("file", .string file)) ++
    [("json_format", .boolean s.jsonFormat)])

end LoggingSettings

namespace Config

/-- An empty list of filters is left out. -/
def toToml (c : Config) : Except EncodeError (List (String × TomlValue)) := do
  let capture ← c.capture.toToml
  let queue ← c.queue.toToml
  let filters ← c.filters.mapM NamedRule.toToml
  return [("capture", capture), ("queue", queue)] ++
    (if filters.isEmpty then [] else [("filters", .array filters)]) ++
    [("logging", c.logging.toToml)]

def toText (c : Config) : Except EncodeError String := return Toml.print (← c.toToml)

end Config
end CaptureQueue
