import CaptureQueue.Backend
import CaptureQueue.DropStrategy
import CaptureQueue.Filter.Chain

/-! The configuration of a capture, its defaults, and the first thing that is wrong with one. -/

set_option autoImplicit false
namespace CaptureQueue

structure CaptureSettings where
  interface : Option InterfaceRequest := none
  promiscuous : Bool := true
  snaplen : Nat := 65535
  -- In milliseconds.
  readTimeout : Nat := 100
deriving DecidableEq, Repr

structure QueueSettings where
  capacity : Nat := 4096
  dropStrategy : DropDecision := .standard
deriving DecidableEq, Repr

structure NamedRule where
  name : String
  rule : FilterRule
deriving BEq, Repr

structure LoggingSettings where
  level : String := "info"
  file : Option String := none
  jsonFormat : Bool := false
deriving DecidableEq, Repr

structure Config where
  capture : CaptureSettings := {}
  queue : QueueSettings := {}
  filters : List NamedRule := []
  logging : LoggingSettings := {}
deriving BEq, Repr

inductive ConfigFlaw where
  | capacityZero
  | snaplenZero
  | readTimeoutZero
  | blankFilterName (index : Nat)
  | repeatedFilterName (index : Nat) (name : String)
  | ruleFlaw (index : Nat) (flaw : RuleFlaw)
  | unknownLevel (level : String)
deriving DecidableEq, Repr

namespace ConfigFlaw

def key : ConfigFlaw → String
  | .capacityZero => "queue.capacity"
  | .snaplenZero => "capture.snaplen"
  | .readTimeoutZero => "capture.read_timeout_ms"
  | .blankFilterName index | .repeatedFilterName index _ => s!"filters[{index}].name"
  | .ruleFlaw index _ => s!"filters[{index}].rule"
  | .unknownLevel _ => "logging.level"

/-- Levels as an error lists them, least grave first. -/
def levelNames : List String :=
  Level.all.reverse.map fun level => String.ofList (Text.lowerAscii level.name.toList)

def message : ConfigFlaw → String
  | .capacityZero => "must be a positive integer"
  | .snaplenZero => "must be at least 1 byte"
  | .readTimeoutZero => "must be at least 1 ms"
  | .blankFilterName _ => "must not be empty"
  | .repeatedFilterName _ name => "duplicate filter name '" ++ name ++ "'"
  | .ruleFlaw _ flaw => flaw.message
  | .unknownLevel level =>
    "unknown level '" ++ level ++ "', expected one of " ++ ", ".intercalate levelNames

def toError (f : ConfigFlaw) : CaptureError := .invalidConfiguration f.key f.message

end ConfigFlaw

namespace Config

/-- The first flaw of the filters from an index on, given the names before it. -/
def filtersFlaw? (index : Nat) (seen : List String) : List NamedRule → Option ConfigFlaw
  | [] => none
  | f :: rest =>
    if (Text.trim f.name.toList).isEmpty then some (.blankFilterName index)
    else if seen.contains f.name then some (.repeatedFilterName index f.name)
    else
      match f.rule.flaw? with
      | some flaw => some (.ruleFlaw index flaw)
      | none => filtersFlaw? (index + 1) (f.name :: seen) rest

/-- The first flaw: sizes, then filters in order, then the level. -/
def flaw? (c : Config) : Option ConfigFlaw :=
  if c.queue.capacity = 0 then some .capacityZero
  else if c.capture.snaplen = 0 then some .snaplenZero
  else if c.capture.readTimeout = 0 then some .readTimeoutZero
  else
    match filtersFlaw? 0 [] c.filters with
    | some flaw => some flaw
    | none =>
      if (Level.ofName? c.logging.level).isSome then none else some (.unknownLevel c.logging.level)

def validate (c : Config) : Except CaptureError Unit :=
  match c.flaw? with
  | some flaw => .error flaw.toError
  | none => .ok ()

def openOptions (c : Config) : OpenOptions where
  promiscuous := c.capture.promiscuous
  snaplen := c.capture.snaplen
  readTimeout := c.capture.readTimeout

def filterChain (c : Config) : FilterChain :=
  .ofList (c.filters.map fun f => .ofRule f.name f.rule)

end Config
end CaptureQueue
