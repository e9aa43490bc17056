import CaptureQueue.Bytes
import CaptureQueue.Fault
import CaptureQueue.Interface
import CaptureQueue.Log

/-! What a session needs of a capture backend: a list of interfaces and streams of frames. The two
type parameters are what the backend changes as it is used, and an open stream of it. -/

set_option autoImplicit false
namespace CaptureQueue

structure OpenOptions where
  promiscuous : Bool := true
  -- Bytes kept of each frame.
  snaplen : Nat := 65535
  -- In milliseconds.
  readTimeout : Nat := 100
deriving DecidableEq, Repr

inductive Reading where
  | frame (data : Bytes)
  | idle
  | failed (e : CaptureError)
  | broken (fault : Fault)
deriving DecidableEq, Repr

/-- A step that may change a state and speak in the log. -/
abbrev Act (σ α : Type) : Type := StateT σ Traced α

namespace Act

def emit {σ : Type} (r : LogRecord) : Act σ Unit := fun s => ⟨((), s), [r]⟩

def within {σ α : Type} (span : LogSpan) (x : Act σ α) : Act σ α := fun s => (x s).within span

end Act

structure Backend (σ τ : Type) where
  name : String
  interfaces : Act σ (Except CaptureError NameSet)
  defaultInterface : Act σ (Option String)
  openOn : InterfaceId → OpenOptions → Act σ (Except CaptureError τ)
  read : τ → Act σ Reading
  -- How many reads will bring more than an idle one.
  pending : σ → Nat
  -- Closing may break, after it has closed.
  close : τ → Act σ (τ × Except Fault Unit)

structure Opening where
  interface : InterfaceId
  options : OpenOptions
deriving DecidableEq, Repr

namespace Backend

variable {σ τ : Type}

def resolverRecord (level : Level) (message : String)
    (fields : List (String × String)) : LogRecord :=
  { level := level, origin := .resolver, message := message, fields := fields }

/-- Finds the interface to capture on. The default is asked for only if no interface is named. -/
def resolve (b : Backend σ τ) (request : Option InterfaceRequest) :
    Act σ (Except CaptureError InterfaceId) := do
  match ← b.interfaces with
  | .error e => return .error e
  | .ok available =>
    Act.emit (resolverRecord .debug "Enumerated interfaces"
      [("backend", b.name), ("count", toString available.size)])
    let default ← if request.isNone then b.defaultInterface else pure none
    match InterfaceId.resolve request available default with
    | .error e => return .error e
    | .ok id =>
      Act.emit (resolverRecord .info "Resolved capture interface" [("interface", id.name)])
      return .ok id

end Backend
end CaptureQueue
