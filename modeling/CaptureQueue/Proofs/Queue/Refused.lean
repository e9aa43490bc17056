import CaptureQueue.Proofs.Queue.Occupancy

/-! Offers that admit nothing. Whether the incoming packet is dropped, handed back or broken over, the
queue is left as it was, and the counters tell which of the three it came to. Emptying a queue at once
is taking its packets one by one. -/

set_option autoImplicit false
namespace CaptureQueue

/-- How an offer ends that does not admit its packet. -/
inductive Refusal where
  | dropped
  | handedBack
  | broken
deriving DecidableEq, Repr

namespace Refusal

def counted (m : Metrics) : Refusal → Metrics
  | .dropped => { m with enqueued := m.enqueued + 1, dropped := m.dropped + 1 }
  | .handedBack => { m with enqueued := m.enqueued + 1, rejected := m.rejected + 1 }
  | .broken => { m with enqueued := m.enqueued + 1 }

/-- What the answer of a strategy comes to for the packet that does not fit. -/
def ofDecision? : Except Fault DropDecision → Option Refusal
  | .ok .dropIncoming => some .dropped
  | .ok .rejectAndSignal => some .handedBack
  | .ok .dropOldest | .ok .dropNewestQueued => none
  | .error _ => some .broken

end Refusal

namespace Offered

def refusal? : Except Fault Offered → Option Refusal
  | .ok (.dropped .dropIncoming _) => some .dropped
  | .ok (.rejected _) => some .handedBack
  | .error _ => some .broken
  | .ok _ => none

end Offered

namespace QueueAnswer

def refusal? : QueueAnswer → Option Refusal
  | .offered outcome => Offered.refusal? outcome
  | .tried (.ok (.ok outcome)) => Offered.refusal? (.ok outcome)
  | .tried (.ok (.error (.queueFull _))) => some .handedBack
  | .tried (.error fault) => Offered.refusal? (.error fault)
  | _ => none

end QueueAnswer

namespace MeteredQueue

variable {m : MeteredQueue} {p : Packet}

/-! ## Offers -/

theorem serve_tryEnqueue_refusal? (m : MeteredQueue) (p : Packet) :
    (m.serve (.tryEnqueue p)).2.refusal? = Offered.refusal? (m.queue.offer p).2 := by
  simp only [serve, tryEnqueue_eq, enqueue_outcome]
  cases (m.queue.offer p).2 with
  | error fault => rfl
  | ok offered => cases offered <;> rfl

theorem offer_refusal? (m : MeteredQueue) (p : Packet) :
    Offered.refusal? (m.queue.offer p).2 =
      if m.queue.packets.length < m.queue.capacity then none
      else Refusal.ofDecision?
        (m.queue.strategy.onOverflow m.queue.consultations m.queue.view p) := by
  by_cases room : m.queue.packets.length < m.queue.capacity
  · rw [PacketQueue.offer_of_room room, if_pos room]
    rfl
  · rw [PacketQueue.offer_of_full (Nat.le_of_not_lt room), if_neg room]
    cases m.queue.strategy.onOverflow m.queue.consultations m.queue.view p with
    | ok decision => cases decision <;> rfl
    | error fault => rfl

theorem serve_enqueue_refused {r : Refusal}
    (refused : Offered.refusal? (m.queue.offer p).2 = some r) :
    (m.serve (.enqueue p)).1 = { queue := m.queue.asked, metrics := r.counted m.metrics } := by
  have counters := m.metrics_enqueue p
  have left : (m.serve (.enqueue p)).1.queue = (m.queue.offer p).1 := rfl
  by_cases room : m.queue.packets.length < m.queue.capacity
  · rw [PacketQueue.offer_of_room room] at refused
    cases refused
  · rw [PacketQueue.offer_of_full (Nat.le_of_not_lt room)] at refused counters left
    generalize (m.serve (.enqueue p)).1 = after at counters left
    obtain ⟨queue, metrics⟩ := after
    dsimp only at counters left
    cases answer : m.queue.strategy.onOverflow m.queue.consultations m.queue.view p with
    | error fault =>
      rw [answer] at refused counters left
      cases refused
      rw [counters, left]
      rfl
    | ok decision =>
      rw [answer] at refused counters left
      cases decision <;> cases refused <;> rw [counters, left] <;> rfl

/-! ## Takers -/

theorem dequeue_of_cons {oldest : Packet} {rest : List Packet}
    (residents : m.queue.packets = oldest :: rest) :
    m.dequeue.value = ({
      queue := { m.queue with packets := rest }
      metrics := m.metrics.update .dequeued }, some oldest) := by
  simp only [dequeue, PacketQueue.take, residents, List.head?_cons, List.tail_cons]

theorem dequeue_of_empty (empty : m.queue.packets = []) : m.dequeue.value = (m, none) := by
  obtain ⟨queue, metrics⟩ := m
  obtain ⟨capacity, strategy, consultations, packets, highWater⟩ := queue
  cases empty
  rfl

theorem length_dequeue_lt {left : MeteredQueue} (found : m.dequeue.value = (left, some p)) :
    left.queue.packets.length < m.queue.packets.length := by
  cases residents : m.queue.packets with
  | nil =>
    rw [dequeue_of_empty residents] at found
    cases found
  | cons oldest rest =>
    rw [dequeue_of_cons residents] at found
    cases found
    exact Nat.lt_succ_self _

def dequeueAll (m : MeteredQueue) : MeteredQueue × List Packet :=
  match _ : m.dequeue.value with
  | (left, some p) =>
    let later := left.dequeueAll
    (later.1, p :: later.2)
  | (left, none) => (left, [])
termination_by m.queue.packets.length
decreasing_by exact length_dequeue_lt ‹_›

theorem drain_eq_dequeueAll (m : MeteredQueue) : m.drain = m.dequeueAll := by
  generalize residents : m.queue.packets = packets
  induction packets generalizing m with
  | nil =>
    have same : m.drain = (m, []) := by
      obtain ⟨⟨capacity, strategy, consultations, packets, highWater⟩, metrics⟩ := m
      cases residents
      rfl
    rw [dequeueAll, dequeue_of_empty residents, same]
  | cons oldest rest ih =>
    let left : MeteredQueue :=
      { queue := { m.queue with packets := rest }, metrics := m.metrics.update .dequeued }
    have later : left.drain = left.dequeueAll := ih left rfl
    have first : m.drain = (left.drain.1, oldest :: left.drain.2) := by
      simp only [drain, PacketQueue.takeAll, residents, left, List.map_cons]
      rfl
    rw [dequeueAll, dequeue_of_cons residents, first, later]

/-- An offer that does not admit its packet leaves the queue as it was, but for the question to the
strategy, and is counted by how it ended. A packet handed back is the one offered, and trying to offer
does to a queue what offering does. Emptying a queue is to take from it until there is nothing. -/
theorem refusal_leaves_queue (m : MeteredQueue) :
    (∀ p, ∀ request ∈ [QueueRequest.enqueue p, .tryEnqueue p],
      (m.serve request).2.refusal? =
          (if m.queue.packets.length < m.queue.capacity then none
            else Refusal.ofDecision?
              (m.queue.strategy.onOverflow m.queue.consultations m.queue.view p)) ∧
        ∀ r ∈ (m.serve request).2.refusal?,
          (m.serve request).1 = {
            queue := { m.queue with consultations := m.queue.consultations + 1 }
            metrics := r.counted m.metrics }) ∧
    (∀ p r, (m.enqueue p).value.2 = .ok (.rejected r) → r = p) ∧
    (∀ p, (m.tryEnqueue p).value.1 = (m.enqueue p).value.1) ∧
    m.drain = m.dequeueAll := by
  refine ⟨fun p request offering => ?_, fun p r => PacketQueue.eq_of_offer_rejected,
    fun p => m.serve_tryEnqueue p, m.drain_eq_dequeueAll⟩
  have ended : (m.serve request).2.refusal? = Offered.refusal? (m.queue.offer p).2 ∧
      (m.serve request).1 = (m.serve (.enqueue p)).1 := by
    obtain rfl | plain := List.mem_cons.mp offering
    · exact ⟨rfl, rfl⟩
    · rw [List.mem_singleton.mp plain]
      exact ⟨m.serve_tryEnqueue_refusal? p, m.serve_tryEnqueue p⟩
  rw [ended.1, ended.2]
  exact ⟨m.offer_refusal? p, fun r refused => serve_enqueue_refused refused⟩

/-- A full queue of two slots under three strategies: one drops what comes, one hands it back, and one
breaks. What is left is emptied in order. -/
theorem refusal_leaves_queue_of_full :
    let packet : Nat → Packet := fun n => { sequence := n, data := [] }
    let full (s : DropStrategy) : MeteredQueue :=
      (serveAll { queue := PacketQueue.create 2 s } [.enqueue (packet 0), .enqueue (packet 1)]).1
    let drops := full (.always .dropIncoming)
    let refuses := full (.always .rejectAndSignal)
    let breaks := full ⟨"breaks", fun _ _ _ => .error (.ofText "no")⟩
    let offer : QueueRequest := .enqueue (packet 2)
    let trial : QueueRequest := .tryEnqueue (packet 2)
    (offer ∈ [QueueRequest.enqueue (packet 2), .tryEnqueue (packet 2)] ∧
      (drops.serve offer).2.refusal? = some .dropped ∧
      (drops.serve offer).1.queue.packets = [packet 0, packet 1] ∧
      (drops.serve offer).1.metrics = { drops.metrics with enqueued := 3, dropped := 1 }) ∧
    (trial ∈ [QueueRequest.enqueue (packet 2), .tryEnqueue (packet 2)] ∧
      (refuses.serve trial).2.refusal? = some .handedBack ∧
      (refuses.serve trial).1.queue.packets = [packet 0, packet 1] ∧
      (refuses.serve trial).1.metrics = { refuses.metrics with enqueued := 3, rejected := 1 } ∧
      (refuses.enqueue (packet 2)).value.2 = .ok (.rejected (packet 2))) ∧
    ((breaks.serve trial).2.refusal? = some .broken ∧
      (breaks.serve trial).1.queue.packets = [packet 0, packet 1] ∧
      (breaks.serve trial).1.metrics = { breaks.metrics with enqueued := 3 }) ∧
    drops.dequeueAll.2 = [packet 0, packet 1] ∧ drops.dequeueAll.1.metrics.dequeued = 2 := by
  intro packet full drops refuses breaks offer trial
  have offering : offer ∈ [QueueRequest.enqueue (packet 2), .tryEnqueue (packet 2)] :=
    List.mem_cons_self
  have trying : trial ∈ [QueueRequest.enqueue (packet 2), .tryEnqueue (packet 2)] :=
    List.mem_cons_of_mem _ List.mem_cons_self
  have dropped : (drops.serve offer).2.refusal? = some .dropped := by decide
  have handedBack : (refuses.serve trial).2.refusal? = some .handedBack := by decide
  have broken : (breaks.serve trial).2.refusal? = some .broken := by decide
  have refused : (refuses.enqueue (packet 2)).value.2 = .ok (.rejected (packet 2)) := by decide
  obtain ⟨offered, _, _, emptied⟩ := refusal_leaves_queue drops
  have afterDrop := (offered (packet 2) offer offering).2 .dropped dropped
  have afterRefusal :=
    ((refusal_leaves_queue refuses).1 (packet 2) trial trying).2 .handedBack handedBack
  have afterFault := ((refusal_leaves_queue breaks).1 (packet 2) trial trying).2 .broken broken
  have residents : ∀ s, (full s).queue.packets = [packet 0, packet 1] := fun _ => rfl
  have taken : drops.drain.2 = [packet 0, packet 1] ∧ drops.drain.1.metrics.dequeued = 2 := by decide
  rw [emptied] at taken
  refine ⟨⟨offering, dropped, ?_, ?_⟩, ⟨trying, handedBack, ?_, ?_, refused⟩, ⟨broken, ?_, ?_⟩, taken⟩
  · rw [afterDrop]
    exact residents _
  · rw [afterDrop]
    rfl
  · rw [afterRefusal]
    exact residents _
  · rw [afterRefusal]
    rfl
  · rw [afterFault]
    exact residents _
  · rw [afterFault]
    rfl

end MeteredQueue
end CaptureQueue
