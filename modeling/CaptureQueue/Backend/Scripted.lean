import CaptureQueue.Backend

/-! A backend that plays a script: each read brings the next reading, and idle ones when none is
left. Frames are not cut, and every closing counts. -/

set_option autoImplicit false
namespace CaptureQueue

structure Script where
  readings : List Reading := []
  closedCount : Nat := 0
deriving DecidableEq, Repr

structure ScriptedHost where
  interfaces : NameSet := .empty
  default : Option String := none
  listError : Option CaptureError := none
  openError : Option CaptureError := none
  closeFault : Option Fault := none
deriving DecidableEq, Repr

namespace ScriptedHost

def read : Act Script Reading := fun s =>
  match s.readings with
  | [] => pure (.idle, s)
  | r :: rest => pure (r, { s with readings := rest })

def close (h : ScriptedHost) : Act Script (Unit × Except Fault Unit) := do
  modify fun s => { s with closedCount := s.closedCount + 1 }
  return ((), match h.closeFault with
    | some fault => .error fault
    | none => .ok ())

def backend (h : ScriptedHost) : Backend Script Unit where
  name := "script"
  interfaces := pure (match h.listError with
    | some e => .error e
    | none => .ok h.interfaces)
  defaultInterface := pure h.default
  openOn := fun _ _ => pure (match h.openError with
    | some e => .error e
    | none => .ok ())
  read := fun _ => read
  pending := fun s => s.readings.length
  close := fun _ => h.close

end ScriptedHost
end CaptureQueue
