import CaptureQueue.CaptureError
import CaptureQueue.Log
import CaptureQueue.Queue.Basic

/-! A queue together with the counters it reports into and the log records of its operations. -/

set_option autoImplicit false
namespace CaptureQueue

structure MeteredQueue where
  queue : PacketQueue
  metrics : Metrics := {}

namespace MeteredQueue

def record (level : Level) (message : String) (fields : List (String × String)) : LogRecord :=
  { level := level, origin := .queue, message := message, fields := fields }

-- A queue needs room for one packet at least, and all its slots at once: more of them than can be
-- addressed are a fault.
def create (capacity : Nat) (strategy : DropStrategy) :
    Traced (Except Fault (Except CaptureError MeteredQueue)) :=
  if capacity = 0 then
    pure (.ok (.error (.invalidConfiguration "queue.capacity" "must be a positive integer")))
  else do
    Traced.emit (record .debug "Created packet queue"
      [("capacity", toString capacity), ("strategy", strategy.name)])
    if PacketQueue.largestSize < capacity * PacketQueue.slotSize then
      return .error (.ofText "capacity overflow")
    return .ok (.ok { queue := PacketQueue.create capacity strategy })

def offerRecords (q : PacketQueue) (p : Packet) : Except Fault Offered → List LogRecord
  | .ok (.dropped decision sequence) =>
    [record .debug "Queue full, packet dropped"
      [("sequence", toString sequence), ("incoming", toString p.sequence),
        ("decision", decision.name)]]
  | .ok (.rejected packet) =>
    [record .debug "Queue full, packet rejected"
      [("sequence", toString packet.sequence), ("capacity", toString q.capacity)]]
  | _ => []

def enqueue (m : MeteredQueue) (p : Packet) : Traced (MeteredQueue × Except Fault Offered) :=
  let (queue, offered) := m.queue.offer p
  let metrics := m.metrics.updateAll (Offered.updatesHeld m.queue offered)
  let metrics := metrics.updateAll (Offered.updatesReleased offered)
  ⟨({ queue := queue, metrics := metrics }, offered), offerRecords m.queue p offered⟩

def tryEnqueue (m : MeteredQueue) (p : Packet) :
    Traced (MeteredQueue × Except Fault (Except CaptureError Offered)) := do
  let (m, offered) ← m.enqueue p
  match offered with
  | .ok (.rejected _) => pure (m, .ok (.error (.queueFull m.queue.capacity)))
  | .ok offered => pure (m, .ok (.ok offered))
  | .error fault => pure (m, .error fault)

def dequeue (m : MeteredQueue) : Traced (MeteredQueue × Option Packet) :=
  match m.queue.take with
  | (queue, some p) =>
    ⟨({ queue := queue, metrics := m.metrics.update .dequeued }, some p),
      [record .trace "Dequeued packet" [("sequence", toString p.sequence)]]⟩
  | (queue, none) => pure ({ m with queue := queue }, none)

/-- Hands out everything at once, without a word in the log. -/
def drain (m : MeteredQueue) : MeteredQueue × List Packet :=
  let (queue, packets) := m.queue.takeAll
  ({ queue := queue, metrics := m.metrics.updateAll (packets.map fun _ => .dequeued) }, packets)

def setStrategy (m : MeteredQueue) (s : DropStrategy) : Traced MeteredQueue := do
  Traced.emit (record .debug "Drop strategy changed"
    [("from", m.queue.strategy.name), ("to", s.name)])
  pure { m with queue := m.queue.withStrategy s }

def release (m : MeteredQueue) : Traced Unit :=
  if m.queue.packets.isEmpty then pure ()
  else
    Traced.emit (record .debug "Discarding packets left in released queue"
      [("remaining", toString m.queue.packets.length)])

end MeteredQueue
end CaptureQueue
