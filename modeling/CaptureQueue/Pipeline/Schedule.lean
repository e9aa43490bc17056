import CaptureQueue.Datalink.Host
import CaptureQueue.Pipeline

/-! The order in which the threads of a pipeline act, by a clock in milliseconds. Work takes no
time; pauses of the host, rests of the consumers and the sleep of the supervisor do. -/

set_option autoImplicit false
namespace CaptureQueue

/-- A pipeline on a host, and when each of its threads goes on. -/
structure Schedule where
  pipeline : Pipeline Host Channel
  delay : Nat
  now : Nat := 0
  producerAt : Nat := 0
  consumersAt : List Nat
  supervisorAt : Nat := 0

namespace Schedule

def tick : Nat := 100

def longestRead : Nat := 2

def ofPipeline (p : Pipeline Host Channel) (delay : Nat) : Schedule where
  pipeline := p
  delay := delay
  consumersAt := p.consumers.map fun _ => 0

inductive Turn where
  | producer
  | consumer (index : Nat)
  | supervisor
deriving DecidableEq, Repr

-- A producer that only polls an exhausted host is left out until it is told to end.
def producerTurn (s : Schedule) (host : Host) : Option (Turn × Nat) :=
  match s.pipeline.session.producer with
  | .active .poll _ _ =>
    if host.events.isEmpty && s.pipeline.session.phase = .capturing then none
    else some (.producer, s.producerAt)
  | .active _ _ _ => some (.producer, s.producerAt)
  | _ => none

-- A consumer that waits for a packet is left out until there is one or none can come.
def isReady (p : Pipeline Host Channel) (c : Consumer) : Bool :=
  match c.task with
  | .done | .broken => false
  | .await => !p.consuming || !p.session.queue.queue.packets.isEmpty
  | _ => true

def consumerTurns (s : Schedule) : List (Turn × Nat) :=
  ((s.pipeline.consumers.zip s.consumersAt).zipIdx.filter fun ((c, _), _) =>
    isReady s.pipeline c).map fun ((_, time), index) => (.consumer index, time)

def supervisorTurn (s : Schedule) : Option (Turn × Nat) :=
  match s.pipeline.supervisor with
  | .done _ => none
  | .join _ =>
    if s.pipeline.session.producer.isActive then none else some (.supervisor, s.supervisorAt)
  | .gather _ => if s.pipeline.allOver then some (.supervisor, s.supervisorAt) else none
  | _ => some (.supervisor, s.supervisorAt)

def turns (s : Schedule) (host : Host) : List (Turn × Nat) :=
  (s.producerTurn host).toList ++ s.consumerTurns ++ s.supervisorTurn.toList

/-- The first of the turns that come soonest. -/
def earliest (now : Nat) : List (Turn × Nat) → Option (Turn × Nat)
  | [] => none
  | (turn, time) :: rest =>
    let time := max now time
    match earliest now rest with
    | some (other, first) => if first < time then some (other, first) else some (turn, time)
    | none => some (turn, time)

def producerStep (s : Schedule) : Act Host Schedule := do
  let host ← get
  match s.pipeline.session.producer, host.events with
  | .active .read _ _, .pause ms :: rest =>
    let p ← s.pipeline.step (.outside { host with events := rest })
    return { s with pipeline := p, producerAt := s.now + ms }
  | .active .read _ _, .interrupt :: rest =>
    let left := { host with events := rest, interrupts := host.interrupts + 1 }
    let p ← s.pipeline.step (.outside left)
    let p ← fun world => (p.step .interrupt world).onThread .producer
    return { s with pipeline := p }
  | .active .read _ _, [] =>
    let wait := min s.pipeline.session.options.readTimeout longestRead
    return { s with pipeline := ← s.pipeline.step .produce, producerAt := s.now + wait }
  | _, _ => return { s with pipeline := ← s.pipeline.step .produce }

def consumerStep (s : Schedule) (index : Nat) : Act Host Schedule := do
  let rest := match (s.pipeline.consumers[index]?).map (·.task) with
    | some (.inspect _) => s.delay
    | _ => 0
  return { s with
    pipeline := ← s.pipeline.step (.consume index)
    consumersAt := s.consumersAt.set index (s.now + rest) }

def supervisorStep (s : Schedule) : Act Host Schedule := do
  let p ← s.pipeline.step (.supervise s.now)
  let rest := match p.supervisor with
    | .sleep => tick
    | _ => 0
  return { s with pipeline := p, supervisorAt := s.now + rest }

def act (s : Schedule) : Turn → Act Host Schedule
  | .producer => s.producerStep
  | .consumer index => s.consumerStep index
  | .supervisor => s.supervisorStep

/-- The next thing that happens; none after the end. -/
def next? (s : Schedule) : Act Host (Option Schedule) := do
  match earliest s.now (s.turns (← get)) with
  | none => return none
  | some (turn, time) => return some (← { s with now := time }.act turn)

def runWithin : Nat → Schedule → Act Host Schedule
  | 0, s => pure s
  | fuel + 1, s => do
    match ← s.next? with
    | none => return s
    | some s => runWithin fuel s

def pauses (events : List ChannelEvent) : Nat :=
  (events.map fun
    | .pause ms => ms
    | _ => 0).foldl (· + ·) 0

-- Enough for a few steps of each thread for each event, and two of the supervisor a tick. A
-- capture that goes on then has nothing left that could end it.
def fuel (s : Schedule) (host : Host) : Nat :=
  16 * (host.events.length + s.pipeline.consumers.length + 4) +
    2 * ((pauses host.events + s.pipeline.deadline.getD 0) / tick + 4)

def run (s : Schedule) : Act Host Schedule := do
  runWithin (s.fuel (← get)) s

end Schedule
end CaptureQueue
