import CaptureQueue.NameSet

/-! What can go wrong in the library, by cause, and the wording of each cause. -/

set_option autoImplicit false
namespace CaptureQueue

inductive CaptureError where
  | noInterfaces
  | permissionDenied (reason : String)
  | invalidInterfaceType (found : String)
  | interfaceNotFound (requested : String) (available : NameSet)
  | queueFull (capacity : Nat)
  | sourceFailure (reason : String)
  | invalidConfiguration (key message : String)
  | invalidState (current requested : String)
  | configNotFound (path : String)
  | io (reason : String)
  | malformedConfig (reason : String)
  | unwritableConfig (reason : String)
deriving DecidableEq, Repr

namespace CaptureError

def message : CaptureError → String
  | .noInterfaces => "No network interfaces available for capture"
  | .permissionDenied reason => "Permission denied: " ++ reason
  | .invalidInterfaceType found => "Interface must be a string name, got " ++ found
  | .interfaceNotFound requested available =>
    "Interface " ++ requested ++ " not found. Available interfaces: " ++
      ", ".intercalate available.toList
  | .queueFull capacity => s!"Queue full: capacity {capacity} reached"
  | .sourceFailure reason => "Capture source failure: " ++ reason
  | .invalidConfiguration key message =>
    "Invalid configuration value for '" ++ key ++ "': " ++ message
  | .invalidState current requested =>
    "Invalid session state: cannot go from " ++ current ++ " to " ++ requested
  | .configNotFound path => "Configuration file not found: " ++ path
  | .io reason => "I/O error: " ++ reason
  | .malformedConfig reason => "TOML parsing error: " ++ reason
  | .unwritableConfig reason => "TOML serialization error: " ++ reason

/-- The error underneath, of which the message is only a retelling. -/
def source? : CaptureError → Option String
  | .io reason | .malformedConfig reason | .unwritableConfig reason => some reason
  | _ => none

/-- Everything but a full queue keeps a session from ever capturing. -/
def isFatal : CaptureError → Bool
  | .queueFull _ => false
  | _ => true

/-- A capture that failed is told as a failure of its source, whatever the cause was. -/
def asSourceFailure : CaptureError → CaptureError
  | .sourceFailure reason => .sourceFailure reason
  | e => .sourceFailure e.message

end CaptureError
end CaptureQueue
