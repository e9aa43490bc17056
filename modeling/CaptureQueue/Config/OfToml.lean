import CaptureQueue.Address.Text
import CaptureQueue.Config
import CaptureQueue.Toml.Decode
import CaptureQueue.Toml.Document
import CaptureQueue.Toml.Excerpt
import CaptureQueue.Toml.Reserved

/-! Reading a configuration from TOML. What is left out keeps its default, unknown keys are passed
over, and the first wrong thing in the order of the document is told. -/

set_option autoImplicit false
namespace CaptureQueue

open Toml.Decode (Decoder fail within)

namespace InterfaceRequest

/-- A value of any kind is taken; only a string is a name. -/
def ofToml : Decoder InterfaceRequest := fun v =>
  match v.settled? with
  | some (.string s) => .ok (.name s)
  | some v => .ok (.invalid v.kind)
  | none => fail .invalidDate

end InterfaceRequest

namespace DropDecision

def ofToml : Decoder DropDecision := fun v => do
  return (ofName? (← Toml.Decode.nameOnly (all.map DropDecision.name) v)).getD standard

end DropDecision

namespace Protocol

def ofToml : Decoder Protocol := fun v => do
  return (ofName? (← Toml.Decode.nameOnly (all.map Protocol.name) v)).getD .vlan

end Protocol

namespace LengthRange

def setField (key : String) (v : TomlValue) (r : LengthRange) :
    Except DecodeFailure LengthRange := do
  if key == "min" then return { r with min := some (← Toml.Decode.size v) }
  else if key == "max" then return { r with max := some (← Toml.Decode.size v) }
  else return r

def ofToml : Decoder LengthRange := Toml.Decode.record "LengthRange" ["min", "max"] setField {}

end LengthRange

namespace IpAddress

def ofToml : Decoder IpAddress := fun v => do
  match ofText? (← Toml.Decode.string "IP address" v) with
  | some a => return a
  | none => fail .invalidAddress

end IpAddress

namespace FilterRule

def kinds : List String := ["protocol", "port", "host", "length", "all", "any", "not"]

mutual

def ofToml : TomlValue → Except DecodeFailure FilterRule
  | .string s =>
    if kinds.contains s then fail (.invalidType .unitVariant "newtype variant")
    else fail (.unknownVariant s kinds)
  | .table [] => fail .noVariant
  | .table [(kind, content)] =>
    within (if kinds.contains kind then .choice kind else .key kind) (ofContent kind content)
  | .table _ => fail .severalVariants
  | _ => fail .notStringOrTable

def ofContent (kind : String) (v : TomlValue) : Except DecodeFailure FilterRule :=
  if kind == "protocol" then (Protocol.ofToml v).map .protocol
  else if kind == "port" then (Toml.Decode.word16 v).map .port
  else if kind == "host" then (IpAddress.ofToml v).map .host
  else if kind == "length" then (LengthRange.ofToml v).map .length
  else if kind == "all" then (ofSequence v).map .all
  else if kind == "any" then (ofSequence v).map .any
  else if kind == "not" then (ofToml v).map .not
  else fail (.unknownVariant kind kinds)

def ofSequence : TomlValue → Except DecodeFailure (List FilterRule)
  | .array vs | .headed vs => ofItems 0 vs
  | v => Toml.Decode.wrongType v "a sequence"

def ofItems : Nat → List TomlValue → Except DecodeFailure (List FilterRule)
  | _, [] => .ok []
  | index, v :: vs => do
    let rule ← within (.item index) (ofToml v)
    let rules ← ofItems (index + 1) vs
    return rule :: rules

end

end FilterRule

namespace NamedRule

structure Partial where
  name : Option String := none
  rule : Option FilterRule := none

def setField (key : String) (v : TomlValue) (p : Partial) : Except DecodeFailure Partial := do
  if key == "name" then return { p with name := some (← Toml.Decode.string "a string" v) }
  else if key == "rule" then return { p with rule := some (← FilterRule.ofToml v) }
  else return p

/-- Both fields have to be there. -/
def ofToml : Decoder NamedRule := fun v => do
  let missing {α : Type} (index : Nat) (name : String) : Except DecodeFailure α :=
    if Toml.Decode.isInOrder v then fail (.tooShort index "struct FilterConfig with 2 elements")
    else fail (.missingField name)
  match ← Toml.Decode.record "FilterConfig" ["name", "rule"] setField {} v with
  | ⟨some name, some rule⟩ => return ⟨name, rule⟩
  | ⟨none, _⟩ => missing 0 "name"
  | ⟨some _, none⟩ => missing 1 "rule"

end NamedRule

namespace CaptureSettings

def setField (key : String) (v : TomlValue) (s : CaptureSettings) :
    Except DecodeFailure CaptureSettings := do
  if key == "interface" then return { s with interface := some (← InterfaceRequest.ofToml v) }
  else if key == "promiscuous" then return { s with promiscuous := ← Toml.Decode.boolean v }
  else if key == "snaplen" then return { s with snaplen := ← Toml.Decode.size v }
  else if key == "read_timeout_ms" then return { s with readTimeout := ← Toml.Decode.word64 v }
  else return s

def ofToml : Decoder CaptureSettings :=
  Toml.Decode.record "CaptureConfig"
    ["interface", "promiscuous", "snaplen", "read_timeout_ms"] setField {}

end CaptureSettings

namespace QueueSettings

def setField (key : String) (v : TomlValue) (s : QueueSettings) :
    Except DecodeFailure QueueSettings := do
  if key == "capacity" then return { s with capacity := ← Toml.Decode.size v }
  else if key == "drop_strategy" then return { s with dropStrategy := ← DropDecision.ofToml v }
  else return s

def ofToml : Decoder QueueSettings :=
  Toml.Decode.record "QueueConfig" ["capacity", "drop_strategy"] setField {}

end QueueSettings

namespace LoggingSettings

def setField (key : String) (v : TomlValue) (s : LoggingSettings) :
    Except DecodeFailure LoggingSettings := do
  if key == "level" then return { s with level := ← Toml.Decode.string "a string" v }
  else if key == "file" then return { s with file := some (← Toml.Decode.string "a string" v) }
  else if key == "json_format" then return { s with jsonFormat := ← Toml.Decode.boolean v }
  else return s

def ofToml : Decoder LoggingSettings :=
  Toml.Decode.record "LoggingConfig" ["level", "file", "json_format"] setField {}

end LoggingSettings

namespace Config

def setField (key : String) (v : TomlValue) (c : Config) : Except DecodeFailure Config := do
  if key == "capture" then return { c with capture := ← CaptureSettings.ofToml v }
  else if key == "queue" then return { c with queue := ← QueueSettings.ofToml v }
  else if key == "filters" then
    return { c with filters := ← Toml.Decode.sequence NamedRule.ofToml v }
  else if key == "logging" then return { c with logging := ← LoggingSettings.ofToml v }
  else return c

def ofToml : Decoder Config :=
  Toml.Decode.record "Config" ["capture", "queue", "filters", "logging"] setField {}

end Config

/-- A document of another shape, and how the place where it differs is shown. -/
structure ShapeError where
  excerpt : String
  failure : DecodeFailure

namespace ShapeError

def message (e : ShapeError) : String := e.failure.message

def report (e : ShapeError) : String := e.excerpt ++ e.message ++ "\n"

end ShapeError

/-- Why a text is no configuration: it is no TOML, or TOML of another shape. A table that should
stand for a date and does not makes it no TOML. -/
inductive ConfigTextError where
  | notToml
  | shape (e : ShapeError)

namespace ConfigTextError

def toError : ConfigTextError → CaptureError
  | .notToml => .malformedConfig ""
  | .shape e => .malformedConfig e.report

end ConfigTextError

namespace Config

def shapeError (s : String) (document : Toml.Located) (f : DecodeFailure) : ShapeError where
  excerpt := ((document.spanAt? none f.path).map (Toml.excerpt s.toList)).getD ""
  failure := f

def ofText (s : String) : Except ConfigTextError Config :=
  match Toml.document? s with
  | none => .error .notToml
  | some members =>
    let values := Toml.Located.memberValues members
    match ofToml (.table values), TomlValue.settledMembers? values with
    | .ok c, _ => .ok c
    | .error f, some _ => .error (.shape (shapeError s (.table none members) f))
    | .error _, none => .error .notToml

end Config
end CaptureQueue
