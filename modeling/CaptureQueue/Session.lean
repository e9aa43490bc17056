import CaptureQueue.Config
import CaptureQueue.Queue.Metered

/-! One capture: frames are read from a stream, judged by the filters and offered to the queue. A
session goes from idle to capturing to stopped and never back. Its producer is a thread of its own,
told here by the step it takes next. -/

set_option autoImplicit false
namespace CaptureQueue

inductive Phase where
  | idle
  | capturing
  | stopped
deriving DecidableEq, Repr

namespace Phase

def name : Phase → String
  | .idle => "idle"
  | .capturing => "capturing"
  | .stopped => "stopped"

def debugText : Phase → String
  | .idle => "Idle"
  | .capturing => "Capturing"
  | .stopped => "Stopped"

end Phase

inductive ProducerTask where
  | poll
  | read
  | ingest (data : Bytes)
  | fail (e : CaptureError)
  | halt
  | close
deriving DecidableEq, Repr

/-- The producer thread: not started, at work on a stream with a number of frames done, or ended,
in good order or by a fault. -/
inductive Producer (τ : Type) where
  | absent
  | active (task : ProducerTask) (stream : τ) (frames : Nat)
  | ended (clean : Bool)

structure Session (σ τ : Type) where
  backend : Backend σ τ
  interface : InterfaceId
  options : OpenOptions
  filters : FilterChain
  queue : MeteredQueue
  phase : Phase := .idle
  producer : Producer τ := .absent
  failure : Option CaptureError := none

namespace Session

variable {σ τ : Type}

def record (level : Level) (message : String) (fields : List (String × String)) : LogRecord :=
  { level := level, origin := .session, message := message, fields := fields }

def creation (backend : Backend σ τ) : LogSpan :=
  { name := "new", origin := .session, notes := [("backend", .text backend.name)] }

/-- Checks the configuration, then finds the interface, then makes the queue. -/
def create (config : Config) (backend : Backend σ τ) :
    Act σ (Except Fault (Except CaptureError (Session σ τ))) := Act.within (creation backend) do
  if let .error e := config.validate then return .ok (.error e)
  match ← backend.resolve config.capture.interface with
  | .error e => return .ok (.error e)
  | .ok interface =>
    let strategy := DropStrategy.always config.queue.dropStrategy
    match ← liftM (MeteredQueue.create config.queue.capacity strategy) with
    | .error fault => return .error fault
    | .ok (.error e) => return .ok (.error e)
    | .ok (.ok queue) =>
      Act.emit (record .info "Capture session created"
        [("interface", interface.name), ("capacity", toString config.queue.capacity),
          ("drop_strategy", config.queue.dropStrategy.name),
          ("filters", toString config.filters.length),
          ("promiscuous", toString config.capture.promiscuous)])
      return .ok (.ok {
        backend := backend, interface := interface, options := config.openOptions,
        filters := config.filterChain, queue := queue })

/-! ## The producer -/

/-- Counts a frame, asks the filters and offers the packet. -/
def ingest (s : Session σ τ) (sequence : Nat) (data : Bytes) :
    Traced (Session σ τ × Except Fault Unit) := do
  let packet : Packet := { sequence := sequence, data := data }
  let metrics := s.queue.metrics.updateAll (Metrics.capture data.length)
  let s := { s with queue := { s.queue with metrics := metrics } }
  match s.filters.firstRejection packet with
  | .error fault => return (s, .error fault)
  | .ok (some (id, name)) =>
    Traced.emit (record .trace "Packet filtered"
      [("sequence", toString sequence), ("id", id.text), ("filter", name)])
    let counted := { s.queue with metrics := s.queue.metrics.update .filtered }
    return ({ s with queue := counted }, .ok ())
  | .ok none =>
    let (queue, offered) ← s.queue.enqueue packet
    let s := { s with queue := queue }
    match offered with
    | .error fault => return (s, .error fault)
    | .ok offered =>
      if offered = .accepted then
        Traced.emit (record .trace "Packet enqueued" [("sequence", toString sequence)])
      return (s, .ok ())

def brokenRecord (fault : Fault) : LogRecord :=
  record .error "Producer thread panicked" [("reason", fault.text)]

def brokenError (fault : Fault) : CaptureError :=
  .sourceFailure ("producer thread panicked: " ++ fault.text)

def afterRead : Reading → Traced ProducerTask
  | .frame data => pure (.ingest data)
  | .idle => pure .poll
  | .failed e => do
    Traced.emit (record .error "Capture source failed" [("error", e.message)])
    return .fail e.asSourceFailure
  | .broken fault => do
    Traced.emit (brokenRecord fault)
    return .fail (brokenError fault)

def produce (s : Session σ τ) : Act σ (Session σ τ) := do
  match s.producer with
  | .active .poll stream frames =>
    let task := if s.phase = .capturing then .read else .close
    return { s with producer := .active task stream frames }
  | .active .read stream frames =>
    let reading ← s.backend.read stream
    let task ← liftM (afterRead reading)
    return { s with producer := .active task stream frames }
  | .active (.ingest data) stream frames =>
    match ← liftM (s.ingest frames data) with
    | (s, .ok ()) => return { s with producer := .active .poll stream (frames + 1) }
    | (s, .error fault) =>
      Act.emit (brokenRecord fault)
      return { s with producer := .active (.fail (brokenError fault)) stream frames }
  | .active (.fail e) stream frames =>
    return { s with failure := some e, producer := .active .halt stream frames }
  | .active .halt stream frames =>
    return { s with phase := .stopped, producer := .active .close stream frames }
  | .active .close stream frames =>
    match ← s.backend.close stream with
    | (_, .ok ()) =>
      Act.emit (record .debug "Producer finished" [("frames", toString frames)])
      return { s with producer := .ended true }
    | (_, .error _) => return { s with producer := .ended false }
  | _ => return s

/-- Whether the last step left the producer with nothing to do but to wait. -/
def rests (before after : Session σ τ) (world : σ) : Bool :=
  match before.producer, after.producer with
  | .active .read _ _, .active .poll _ _ => after.backend.pending world = 0
  | _, .active _ _ _ => false
  | _, _ => true

def settleWithin : Nat → Session σ τ → Act σ (Session σ τ)
  | 0, s => pure s
  | fuel + 1, s => do
    let after ← fun world => (s.produce world).onThread .producer
    if s.rests after (← get) then return after else settleWithin fuel after

-- Lets the producer go on until its stream has nothing left or it has ended. Three steps bring it
-- from one reading to the next, and less than eight from the last to its end.
def settle (s : Session σ τ) : Act σ (Session σ τ) := do
  settleWithin (3 * s.backend.pending (← get) + 8) s

/-! ## The owner -/

def start (s : Session σ τ) : Act σ (Session σ τ × Except CaptureError Unit) := do
  if s.phase ≠ .idle then
    return (s, .error (.invalidState s.phase.name Phase.capturing.name))
  match ← s.backend.openOn s.interface s.options with
  | .error e =>
    Act.emit (record .error "Failed to open capture stream"
      [("interface", s.interface.name), ("error", e.message)])
    return ({ s with phase := .stopped }, .error e)
  | .ok stream =>
    Act.emit (record .info "Capture started"
      [("interface", s.interface.name), ("backend", s.backend.name)])
    return ({ s with phase := .capturing, producer := .active .poll stream 0 }, .ok ())

/-- Hands out the failure, if there is one, which is then forgotten. -/
def takeFailure (s : Session σ τ) : Session σ τ × Except CaptureError Unit :=
  ({ s with failure := none }, match s.failure with
    | some e => .error e
    | none => .ok ())

/-- Ends the wait for the producer. A producer ended by a fault is a failure if no other came
before. -/
def join (s : Session σ τ) : Traced (Session σ τ) := do
  match s.producer with
  | .ended false =>
    Traced.emit (record .error "Producer thread panicked" [])
    let failure := s.failure.getD (.sourceFailure "producer thread panicked")
    return { s with producer := .absent, failure := some failure }
  | .ended true => return { s with producer := .absent }
  | _ => return s

def requestStop (s : Session σ τ) : Session σ τ := { s with phase := .stopped }

/-- What remains to be done once the producer has ended, given the phase before the request. -/
def conclude (previous : Phase) (s : Session σ τ) :
    Traced (Session σ τ × Except CaptureError Unit) := do
  let s ← s.join
  if previous ≠ .stopped then
    Traced.emit (record .info "Capture stopped"
      [("interface", s.interface.name), ("metrics", s.queue.metrics.text)])
  return s.takeFailure

/-- Stops the session, waits for its producer, and reports a failure of it once. -/
def stop (s : Session σ τ) : Act σ (Session σ τ × Except CaptureError Unit) := do
  let previous := s.phase
  conclude previous (← settle s.requestStop)

def addFilter (s : Session σ τ) (p : Predicate) : Traced (Session σ τ × FilterId) := do
  let (filters, id) := s.filters.add p
  Traced.emit (record .debug "Filter added" [("id", id.text), ("filter", p.name)])
  return ({ s with filters := filters }, id)

def removeFilter (s : Session σ τ) (id : FilterId) : Traced (Session σ τ × Bool) := do
  let (filters, removed) := s.filters.remove id
  if removed then Traced.emit (record .debug "Filter removed" [("id", id.text)])
  return ({ s with filters := filters }, removed)

def dequeue (s : Session σ τ) : Traced (Session σ τ × Option Packet) := do
  let (queue, packet) ← s.queue.dequeue
  return ({ s with queue := queue }, packet)

def drain (s : Session σ τ) : Session σ τ × List Packet :=
  let (queue, packets) := s.queue.drain
  ({ s with queue := queue }, packets)

def setStrategy (s : Session σ τ) (strategy : DropStrategy) : Traced (Session σ τ) := do
  return { s with queue := ← s.queue.setStrategy strategy }

/-- Gives the session up. Its queue stays for those who still read from it. -/
def release (s : Session σ τ) : Act σ MeteredQueue := do
  let (s, result) ← s.stop
  if let .error e := result then
    Act.emit (record .warn "Capture session ended with an unreported failure"
      [("error", e.message)])
  return s.queue

def debugText (s : Session σ τ) : String :=
  "CaptureSession \x7b interface: " ++ s.interface.debugText ++ ", state: " ++ s.phase.debugText ++
    ", queue: " ++ s.queue.queue.debugText ++ " \x7d"

end Session
end CaptureQueue
