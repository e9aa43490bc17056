import CaptureQueue.DropStrategy
import CaptureQueue.Metrics

/-! A first-in first-out queue of fixed capacity. Offering a packet never waits: a full queue asks
its strategy. Every step also says which counters it moves. -/

set_option autoImplicit false
namespace CaptureQueue

structure PacketQueue where
  capacity : Nat
  strategy : DropStrategy
  consultations : Nat := 0
  -- Resident packets, oldest first.
  packets : List Packet := []
  highWater : Nat := 0

/-- What became of an offered packet. -/
inductive Offered where
  | accepted
  | dropped (decision : DropDecision) (sequence : Nat)
  | rejected (packet : Packet)
deriving DecidableEq, Repr

namespace PacketQueue

/-- Bytes that one slot takes. -/
def slotSize : Nat := 104

/-- Bytes that one queue can take. -/
def largestSize : Nat := Nat.pow 2 63 - 1

def create (capacity : Nat) (strategy : DropStrategy) : PacketQueue :=
  { capacity := capacity, strategy := strategy }

def view (q : PacketQueue) : QueueView where
  capacity := q.capacity
  occupancy := q.packets.length
  oldest := q.packets.head?.map Packet.sequence
  newest := q.packets.getLast?.map Packet.sequence

def hasRoom (q : PacketQueue) : Bool := q.packets.length < q.capacity

def push (q : PacketQueue) (p : Packet) : PacketQueue :=
  let packets := q.packets ++ [p]
  { q with packets := packets, highWater := max q.highWater packets.length }

def overflow (q : PacketQueue) (p : Packet) : DropDecision → PacketQueue × Offered
  | .dropIncoming => (q, .dropped .dropIncoming p.sequence)
  | .dropOldest =>
    ({ q with packets := q.packets.tail }.push p,
      .dropped .dropOldest ((q.packets.head?.map Packet.sequence).getD p.sequence))
  | .dropNewestQueued =>
    ({ q with packets := q.packets.dropLast }.push p,
      .dropped .dropNewestQueued ((q.packets.getLast?.map Packet.sequence).getD p.sequence))
  | .rejectAndSignal => (q, .rejected p)

-- Takes a packet in if there is room, and does what the strategy decides if there is none. A
-- strategy that breaks leaves the residents as they were.
def offer (q : PacketQueue) (p : Packet) : PacketQueue × Except Fault Offered :=
  if q.hasRoom then (q.push p, .ok .accepted)
  else
    let asked := { q with consultations := q.consultations + 1 }
    match q.strategy.onOverflow q.consultations q.view p with
    | .ok decision =>
      let (q, offered) := asked.overflow p decision
      (q, .ok offered)
    | .error fault => (asked, .error fault)

def take (q : PacketQueue) : PacketQueue × Option Packet :=
  ({ q with packets := q.packets.tail }, q.packets.head?)

def takeAll (q : PacketQueue) : PacketQueue × List Packet := ({ q with packets := [] }, q.packets)

def withStrategy (q : PacketQueue) (s : DropStrategy) : PacketQueue :=
  { q with strategy := s, consultations := 0 }

def debugText (q : PacketQueue) : String :=
  s!"BoundedPacketQueue \x7b capacity: {q.capacity}, occupancy: {q.packets.length}, strategy: " ++
    Text.quoted q.strategy.name ++ " \x7d"

def readerDebugText (q : PacketQueue) : String := "QueueReader(" ++ q.debugText ++ ")"

end PacketQueue

namespace Offered

/-- The counters moved while the queue is held, in order. -/
def updatesHeld (q : PacketQueue) : Except Fault Offered → List MetricUpdate
  | .ok .accepted => [.enqueued, .occupancy (q.packets.length + 1)]
  | .ok (.dropped _ _) => [.enqueued]
  | .ok (.rejected _) => [.enqueued, .rejected]
  | .error _ => [.enqueued]

/-- The counters moved after the queue was let go. -/
def updatesReleased : Except Fault Offered → List MetricUpdate
  | .ok (.dropped _ _) => [.dropped]
  | _ => []

end Offered
end CaptureQueue
