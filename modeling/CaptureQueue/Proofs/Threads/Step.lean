import CaptureQueue.Filter.Chain
import CaptureQueue.Queue.Metered
import CaptureQueue.Proofs.Queue.Offer

/-! The single steps in which threads ingest packets and take them. Each update of a counter is a
step of its own, and so is each change made under the lock of the queue; between any two of them
every other thread may act. -/

set_option autoImplicit false
namespace CaptureQueue

/-- What has happened so far: packets by what became of them, and the updates made to the counters. A
predicate broke over the unjudged ones, and the strategy over the undecided ones; drops go by the
numbers that they were reported under. It records and decides nothing. -/
structure Ledger where
  captured : List Packet := []
  filtered : List Packet := []
  unjudged : List Packet := []
  handed : List Packet := []
  dropped : List Nat := []
  rejected : List Packet := []
  undecided : List Packet := []
  updates : List MetricUpdate := []

structure SharedQueue where
  filters : FilterChain
  queue : MeteredQueue
  held : Bool := false
  ledger : Ledger := {}

namespace SharedQueue

def count (s : SharedQueue) (u : MetricUpdate) : SharedQueue :=
  { s with
    queue := { s.queue with metrics := s.queue.metrics.update u }
    ledger := { s.ledger with updates := s.ledger.updates ++ [u] } }

def countAll (s : SharedQueue) (us : List MetricUpdate) : SharedQueue := us.foldl count s

def capture (s : SharedQueue) (p : Packet) : SharedQueue :=
  let s := s.count .captured
  { s with ledger := { s.ledger with captured := s.ledger.captured ++ [p] } }

def filter (s : SharedQueue) (p : Packet) : SharedQueue :=
  { s with ledger := { s.ledger with filtered := s.ledger.filtered ++ [p] } }

def breakOver (s : SharedQueue) (p : Packet) : SharedQueue :=
  { s with ledger := { s.ledger with unjudged := s.ledger.unjudged ++ [p] } }

def offer (s : SharedQueue) (p : Packet) : SharedQueue :=
  let (queue, outcome) := s.queue.queue.offer p
  { s with
    queue := { s.queue with queue := queue }
    ledger := { s.ledger with
      dropped := s.ledger.dropped ++ Offered.named outcome
      rejected := s.ledger.rejected ++ Offered.returned outcome
      undecided := s.ledger.undecided ++ Offered.broken p outcome } }

def taken (s : SharedQueue) (all : Bool) : PacketQueue × List Packet :=
  if all then s.queue.queue.takeAll else (s.queue.queue.take.1, s.queue.queue.take.2.toList)

def take (s : SharedQueue) (all : Bool) : SharedQueue :=
  { s with
    queue := { s.queue with queue := (s.taken all).1 }
    ledger := { s.ledger with handed := s.ledger.handed ++ (s.taken all).2 } }

end SharedQueue

/-- How far a thread has come with a packet that it ingests. What it settles, still under the lock, is
the answer of the queue as it was. -/
inductive Ingest where
  | capture (p : Packet)
  | measure (p : Packet)
  | judge (p : Packet)
  | dismiss
  | enter (p : Packet)
  | register (p : Packet)
  | decide (p : Packet)
  | settle (asked : PacketQueue) (outcome : Except Fault Offered)
  | release (outcome : Except Fault Offered)
  | leave (outcome : Except Fault Offered)
  | done (result : Except Fault Unit)

namespace Ingest

/-- The next step; none at the end, or while another thread holds the queue. The lists that are
counted at once have one update at most. -/
def step (s : SharedQueue) : Ingest → Option (SharedQueue × Ingest)
  | .capture p => some (s.capture p, .measure p)
  | .measure p => some (s.count (.bytes p.data.length), .judge p)
  | .judge p =>
    match s.filters.firstRejection p with
    | .error fault => some (s.breakOver p, .done (.error fault))
    | .ok (some _) => some (s.filter p, .dismiss)
    | .ok none => some (s, .enter p)
  | .dismiss => some (s.count .filtered, .done (.ok ()))
  | .enter p => if s.held then none else some ({ s with held := true }, .register p)
  | .register p => some (s.count .enqueued, .decide p)
  | .decide p => some (s.offer p, .settle s.queue.queue (s.queue.queue.offer p).2)
  | .settle asked outcome =>
    some (s.countAll (Offered.updatesHeld asked outcome).tail, .release outcome)
  | .release outcome => some ({ s with held := false }, .leave outcome)
  | .leave outcome =>
    some (s.countAll (Offered.updatesReleased outcome), .done (outcome.map fun _ => ()))
  | .done _ => none

def atQueue : Ingest → Bool
  | .register _ | .decide _ | .settle _ _ | .release _ | .leave _ => true
  | _ => false

end Ingest

/-- How far a thread has come that takes the oldest packet, or all of them. One that waits for a
packet looks again and again. -/
inductive Taking where
  | enter (all : Bool)
  | take (all : Bool)
  | count (uncounted : Nat) (packets : List Packet)
  | done (packets : List Packet)
deriving DecidableEq

namespace Taking

def step (s : SharedQueue) : Taking → Option (SharedQueue × Taking)
  | .enter all => if s.held then none else some ({ s with held := true }, .take all)
  | .take all => some (s.take all, .count (s.taken all).2.length (s.taken all).2)
  | .count (n + 1) packets => some (s.count .dequeued, .count n packets)
  | .count 0 packets => some ({ s with held := false }, .done packets)
  | .done _ => none

def atQueue : Taking → Bool
  | .take _ | .count _ _ => true
  | _ => false

end Taking

inductive Edit where
  | addFilter (p : Predicate)
  | removeFilter (id : FilterId)
  | setStrategy (s : DropStrategy)

namespace Edit

def step (s : SharedQueue) : Edit → Option SharedQueue
  | .addFilter p => some { s with filters := (s.filters.add p).1 }
  | .removeFilter id => some { s with filters := (s.filters.remove id).1 }
  | .setStrategy strategy =>
    if s.held then none
    else some { s with queue := { s.queue with queue := s.queue.queue.withStrategy strategy } }

end Edit
end CaptureQueue
