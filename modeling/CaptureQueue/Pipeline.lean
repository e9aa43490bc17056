import CaptureQueue.Session

/-! A capture at work: a session, the consumers that read from its queue, and a supervisor that
waits for the end. Each of them is a thread, told by what it does next; what happens is a list of
their actions in any order. -/

set_option autoImplicit false
namespace CaptureQueue

inductive ConsumerTask where
  | look
  | await
  | inspect (p : Packet)
  | drain
  | inspectLeft (p : Packet)
  | done
  | broken
deriving DecidableEq, Repr

namespace ConsumerTask

def isOver : ConsumerTask → Bool
  | .done | .broken => true
  | _ => false

end ConsumerTask

structure Consumer where
  task : ConsumerTask := .look
  consumed : Nat := 0
deriving DecidableEq, Repr

inductive SupervisorTask where
  | look
  | sleep
  | stop
  -- Waits for the producer, having stopped a session that was in the given phase.
  | join (previous : Phase)
  -- Waits for the consumers, having learnt how the session ended.
  | gather (outcome : Except CaptureError Unit)
  | done (outcome : Except CaptureError Unit)

structure Report where
  metrics : Metrics
  -- Milliseconds since the start.
  elapsed : Nat
  last : Bool
deriving DecidableEq, Repr

structure Pipeline (σ τ : Type) where
  session : Session σ τ
  consumers : List Consumer
  supervisor : SupervisorTask := .look
  interrupted : Bool := false
  consuming : Bool := true
  -- Milliseconds after the start.
  deadline : Option Nat := none
  -- Milliseconds between two reports; none if it is zero.
  interval : Nat := 0
  lastReport : Nat := 0
  reports : List Report := []

/-- A step of one thread, or of the world on its own. The supervisor reads the time when it
wakes. -/
inductive PipelineAction (σ : Type) where
  | produce
  | consume (index : Nat)
  | interrupt
  | supervise (now : Nat)
  | outside (world : σ)
deriving DecidableEq, Repr

namespace Producer

variable {τ : Type}

def isActive : Producer τ → Bool
  | .active _ _ _ => true
  | _ => false

end Producer

namespace Pipeline

variable {σ τ : Type}

/-- At least one consumer reads from the queue. -/
def ofSession (s : Session σ τ) (consumers : Nat) (deadline : Option Nat) (interval : Nat) :
    Pipeline σ τ where
  session := s
  consumers := List.replicate (max consumers 1) {}
  deadline := deadline
  interval := interval

def record (level : Level) (message : String) (fields : List (String × String)) : LogRecord :=
  { level := level, origin := .runCommand, message := message, fields := fields }

def previewLength : Nat := 32

def inspection (p : Packet) : Except Fault LogRecord := do
  let preview ← p.data.before (min p.data.length previewLength)
  return record .trace "Dequeued packet"
    [("sequence", toString p.sequence), ("len", toString p.data.length),
      ("protocols", p.tags.debugText), ("preview", Bytes.hex preview)]

theorem inspection_eq (p : Packet) : inspection p = .ok (record .trace "Dequeued packet"
    [("sequence", toString p.sequence), ("len", toString p.data.length),
      ("protocols", p.tags.debugText), ("preview", Bytes.hex (p.data.take previewLength))]) := by
  rw [inspection, Bytes.before_min]
  rfl

/-- A consumer that looks at a packet and then has another task, unless it breaks. -/
def inspect (c : Consumer) (packet : Packet) (next : ConsumerTask) : Traced Consumer := do
  match inspection packet with
  | .ok r =>
    Traced.emit r
    return { task := next, consumed := c.consumed + 1 }
  | .error _ => return { c with task := .broken }

def allOver (p : Pipeline σ τ) : Bool := p.consumers.all (·.task.isOver)

/-- What the consumers say to have consumed. A broken one says nothing. -/
def consumed (p : Pipeline σ τ) : Nat :=
  ((p.consumers.filter (·.task ≠ .broken)).map (·.consumed)).foldl (· + ·) 0

def consumeAs (p : Pipeline σ τ) (c : Consumer) : Traced (Pipeline σ τ × Consumer) := do
  match c.task with
  | .look => return (p, { c with task := if p.consuming then .await else .drain })
  | .await =>
    let (session, packet) ← p.session.dequeue
    return ({ p with session := session }, { c with task := (packet.map .inspect).getD .look })
  | .inspect packet => return (p, ← inspect c packet .look)
  | .drain =>
    let (session, packet) ← p.session.dequeue
    return ({ p with session := session }, { c with task := (packet.map .inspectLeft).getD .done })
  | .inspectLeft packet => return (p, ← inspect c packet .drain)
  | .done | .broken => return (p, c)

def consume (p : Pipeline σ τ) (index : Nat) : Traced (Pipeline σ τ) :=
  match p.consumers[index]? with
  | none => pure p
  | some c => Traced.onThread (.consumer index) do
    let (p, c) ← p.consumeAs c
    return { p with consumers := p.consumers.set index c }

def report (p : Pipeline σ τ) (now : Nat) (last : Bool) : Pipeline σ τ :=
  { p with lastReport := now, reports := p.reports ++ [⟨p.session.queue.metrics, now, last⟩] }

/-- What the supervisor does when it wakes: a stopped session comes before the deadline. -/
def wake (p : Pipeline σ τ) (now : Nat) : Traced (Pipeline σ τ) := do
  if p.session.phase = .stopped then
    Traced.emit (record .error "Capture stopped unexpectedly" [])
    return { p with supervisor := .stop }
  if p.deadline.any (· ≤ now) then
    Traced.emit (record .info "Capture duration elapsed" [])
    return { p with supervisor := .stop }
  let p := if p.interval ≠ 0 ∧ p.interval ≤ now - p.lastReport then p.report now false else p
  return { p with supervisor := .look }

-- One step of the supervisor. The producer ends before the consumers are told to, so that nothing
-- comes into the queue after they have emptied it.
def supervise (p : Pipeline σ τ) (now : Nat) : Traced (Pipeline σ τ) := do
  match p.supervisor with
  | .look => return { p with supervisor := if p.interrupted then .stop else .sleep }
  | .sleep => p.wake now
  | .stop =>
    return { p with session := p.session.requestStop, supervisor := .join p.session.phase }
  | .join previous =>
    if p.session.producer.isActive then return p
    let (session, outcome) ← p.session.conclude previous
    return { p with session := session, consuming := false, supervisor := .gather outcome }
  | .gather outcome =>
    if !p.allOver then return p
    (p.consumers.filter (·.task = .broken)).forM fun _ =>
      Traced.emit (record .warn "Consumer thread panicked" [])
    Traced.emit (record .info "Capture stopped"
      [("consumed", toString p.consumed),
        ("in_flight", toString p.session.queue.metrics.inFlight)])
    return { p.report now true with supervisor := .done outcome }
  | .done _ => return p

def interrupt (p : Pipeline σ τ) : Traced (Pipeline σ τ) := do
  Traced.emit (record .info "Received interrupt signal, shutting down..." [])
  return { p with interrupted := true }

def step (p : Pipeline σ τ) : PipelineAction σ → Act σ (Pipeline σ τ)
  | .produce => do
    let session ← fun world => (p.session.produce world).onThread .producer
    return { p with session := session }
  | .consume index => p.consume index
  | .interrupt => p.interrupt
  | .supervise now => p.supervise now
  | .outside world => do
    set world
    return p

def run (p : Pipeline σ τ) (actions : List (PipelineAction σ)) : Act σ (Pipeline σ τ) :=
  actions.foldlM step p

/-- How the capture ended, once the supervisor has made the last report. -/
def outcome? (p : Pipeline σ τ) : Option (Except CaptureError Unit) :=
  match p.supervisor with
  | .done outcome => some outcome
  | _ => none

end Pipeline
end CaptureQueue
