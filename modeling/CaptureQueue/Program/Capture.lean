import CaptureQueue.Pipeline.Schedule
import CaptureQueue.Program.ConfigFile
import CaptureQueue.Program.ReportText

/-! The command that captures: it opens a session on the host, lets consumers take the packets, and
reports what became of them. -/

set_option autoImplicit false
namespace CaptureQueue

namespace RunOptions

/-- Lays what the command line says over a configuration. -/
def override (o : RunOptions) (c : Config) : Config :=
  { c with
    capture := { c.capture with
      interface := (o.interface.map .name) <|> c.capture.interface
      promiscuous := if o.noPromiscuous then false else o.promiscuous || c.capture.promiscuous
      snaplen := o.snaplen.getD c.capture.snaplen }
    queue := {
      capacity := o.capacity.getD c.queue.capacity
      dropStrategy := o.dropStrategy.getD c.queue.dropStrategy } }

/-- The latest second that the clock can tell. -/
def latestSecond : Nat := Nat.pow 2 63 - 1

/-- The end of a capture in milliseconds after its start, which is some seconds after that of the
clock; one that the clock cannot tell is a fault. -/
def deadline (o : RunOptions) (uptime : Nat) : Except Fault (Option Nat) :=
  match o.duration with
  | none => .ok none
  | some seconds =>
    if latestSecond < uptime + seconds then
      .error (.ofText "overflow when adding duration to instant")
    else .ok (some (1000 * seconds))

end RunOptions

namespace Capture

abbrev HostSession : Type := Session Host Channel

def configure (e : Surroundings) (o : RunOptions) (named : Option String) : Job Config := do
  let config := o.override (← ConfigFile.loadEffective e named)
  Job.within "Invalid configuration" (Job.ofCapture config.validate)
  return config

def openSession (c : Config) : Job HostSession :=
  Job.within "Failed to set up capture session" do
    Job.ofCapture (← Job.ofFaulty (← Job.onHost (Session.create c Datalink.backend)))

/-- A job with a session, which is given up if the job comes to an early end. -/
def guarding {α : Type} (s : HostSession) (job : Job α) : Job α :=
  tryCatch job fun h => do
    let queue ← Job.onHost s.release
    Job.onHost (liftM queue.release)
    Job.halt h

def start (e : Surroundings) (s : HostSession) : Job HostSession := do
  if let some refusal := e.handlerRefusal then
    guarding s (Job.within "Failed to set signal handler" (Job.fail (.told refusal)))
  let (s, started) ← Job.onHost s.start
  guarding s (Job.within "Failed to start capture" (Job.ofCapture started))
  return s

def conclude (outcome : Except CaptureError Unit) : Job Unit :=
  Job.within "Capture source failed" (Job.ofCapture outcome)

-- A schedule without an outcome would go on for ever; what it reported by then is printed.
def watch (e : Surroundings) (o : RunOptions) (s : HostSession) (deadline : Option Nat) :
    Job Unit := do
  let pipeline := Pipeline.ofSession s o.consumers deadline (1000 * o.statsInterval)
  let ended ← Job.onHost (Schedule.ofPipeline pipeline o.consumeDelay).run
  Job.printAll (ended.pipeline.reports.flatMap (Report.output e.colours o.json))
  match ended.pipeline.outcome? with
  | some outcome => conclude outcome
  | none => Job.halt .endless

def run (e : Surroundings) (o : RunOptions) (named : Option String) : Job Unit := do
  let session ← start e (← openSession (← configure e o named))
  Job.log (Pipeline.record .info "Capture running - press Ctrl+C to stop"
    [("interface", session.interface.name), ("consumers", toString o.consumers)])
  watch e o session (← guarding session (Job.ofFaulty (o.deadline e.uptime)))

end Capture
end CaptureQueue
