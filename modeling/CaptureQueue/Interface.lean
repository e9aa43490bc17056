import CaptureQueue.CaptureError
import CaptureQueue.Text.Quoted

/-! Which interface is asked for, and which one that is among those of a host. -/

set_option autoImplicit false
namespace CaptureQueue

structure InterfaceId where
  name : String
deriving DecidableEq, Repr

namespace InterfaceId

def debugText (id : InterfaceId) : String := "InterfaceId(" ++ Text.quoted id.name ++ ")"

end InterfaceId

/-- An interface as a configuration asks for it. A value that is no name is kept by its kind, to be
refused when the interface is looked up. -/
inductive InterfaceRequest where
  | name (s : String)
  | invalid (found : String)
deriving DecidableEq, Repr

namespace InterfaceRequest

def name? : InterfaceRequest → Option String
  | .name s => some s
  | .invalid _ => none

end InterfaceRequest

namespace InterfaceId

/-- Stands for the name of the interface in an error if none was asked for. -/
def defaultLabel : String := "<platform default>"

def lookUp (label : String) (available : NameSet) : Option String → Except CaptureError InterfaceId
  | some name =>
    if available.contains name then .ok ⟨name⟩ else .error (.interfaceNotFound label available)
  | none => .error (.interfaceNotFound label available)

-- An empty host is refused first, then a request that is no name, then a name that is not listed.
-- Without a request the default of the host has to be listed.
def resolve (request : Option InterfaceRequest) (available : NameSet) (default : Option String) :
    Except CaptureError InterfaceId :=
  if available.isEmpty then .error .noInterfaces
  else
    match request with
    | some (.invalid found) => .error (.invalidInterfaceType found)
    | some (.name name) => lookUp name available (some name)
    | none => lookUp defaultLabel available default

end InterfaceId
end CaptureQueue
