import CaptureQueue.CaptureError
import CaptureQueue.Fault
import CaptureQueue.IoError

/-! Why a command failed, and how that is told. -/

set_option autoImplicit false
namespace CaptureQueue

inductive Cause where
  | capture (e : CaptureError)
  | system (e : IoError)
  | told (reason : String)
deriving DecidableEq, Repr

namespace Cause

def messages : Cause → List String
  | .capture e => e.message :: e.source?.toList
  | .system e => [e.text]
  | .told reason => [reason]

end Cause

/-- A cause, and what was being done when it came up, the most general first. -/
structure Failure where
  contexts : List String := []
  cause : Cause
deriving DecidableEq, Repr

namespace Failure

def messages (f : Failure) : List String := f.contexts ++ f.cause.messages

def line (f : Failure) : String := ": ".intercalate f.messages

/-- Lines under a number, which is left out where there is only one cause. -/
def indented (number : Option Nat) (text : String) : String :=
  match number with
  | none => "    " ++ text.replace "\n" "\n    "
  | some n =>
    let digits := toString n
    String.ofList (List.replicate (5 - digits.length) ' ') ++ digits ++ ": " ++
      text.replace "\n" "\n       "

def causesText : List String → String
  | [] => ""
  | [cause] => "\n\nCaused by:\n" ++ indented none cause
  | causes => "\n\nCaused by:\n" ++
    "\n".intercalate (causes.mapIdx fun i cause => indented (some i) cause)

def report (f : Failure) : String :=
  "Error: " ++ f.messages.headD "" ++ causesText (f.messages.drop 1) ++ "\n"

end Failure

/-- Why a command has no result. -/
inductive Halt where
  | failed (f : Failure)
  | broken (fault : Fault)
  | endless
deriving DecidableEq, Repr

namespace Halt

/-- Puts what was being done before the reasons of a failure. -/
def within (context : String) : Halt → Halt
  | .failed f => .failed { f with contexts := context :: f.contexts }
  | h => h

end Halt
end CaptureQueue
