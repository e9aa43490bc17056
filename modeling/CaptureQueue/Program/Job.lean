import CaptureQueue.Datalink.Host
import CaptureQueue.FileTree
import CaptureQueue.Program.Failure

/-! The work of a command: it reads and changes files and the host, prints, and may fail. -/

set_option autoImplicit false
namespace CaptureQueue

/-- What a command is told from outside. -/
structure Surroundings where
  environment : String → Option String := fun _ => none
  logFilter : Option String := none
  userConfig : Option String := none
  colours : Bool := false
  handlerRefusal : Option String := none
  -- Seconds that the clock has counted when a capture begins.
  uptime : Nat := 1

structure Workplace where
  files : FileTree := {}
  host : Host := {}
  output : String := ""
  remarks : String := ""

abbrev Job (α : Type) : Type := ExceptT Halt (Act Workplace) α

namespace Job

variable {α : Type}

def print (line : String) : Job Unit :=
  modify fun w => { w with output := w.output ++ line ++ "\n" }

def printAll (lines : List String) : Job Unit := lines.forM print

def remark (line : String) : Job Unit :=
  modify fun w => { w with remarks := w.remarks ++ line ++ "\n" }

def log (r : LogRecord) : Job Unit := ExceptT.lift (Act.emit r)

def halt (h : Halt) : Job α := ExceptT.mk (pure (.error h))

def fail (cause : Cause) : Job α := halt (.failed { cause := cause })

def within (context : String) (job : Job α) : Job α :=
  ExceptT.mk do return (← job.run).mapError (Halt.within context)

def ofCapture : Except CaptureError α → Job α
  | .ok a => pure a
  | .error e => fail (.capture e)

def ofSystem : Except IoError α → Job α
  | .ok a => pure a
  | .error e => fail (.system e)

def ofFaulty : Except Fault α → Job α
  | .ok a => pure a
  | .error fault => halt (.broken fault)

def onHost (act : Act Host α) : Job α := do
  let (a, host) ← ExceptT.lift (liftM (act.run (← get).host))
  modify fun w => { w with host := host }
  return a

def writeFile (path : String) (text : String) : Job Unit := do
  let files ← ofSystem ((← get).files.write path (.ofText text))
  modify fun w => { w with files := files }

end Job
end CaptureQueue
