import CaptureQueue.Session
import CaptureQueue.Proofs.Threads.Balance
import Mathlib.Logic.Relation

/-! Threads that nobody interrupts. Their single steps come to what the operations of the queue and
of the session do at once. -/

set_option autoImplicit false
namespace CaptureQueue

theorem Offered.updatesHeld_eq_cons (asked : PacketQueue) (outcome : Except Fault Offered) :
    updatesHeld asked outcome = .enqueued :: (updatesHeld asked outcome).tail := by
  match outcome with
  | .ok .accepted => rfl
  | .ok (.dropped _ _) => rfl
  | .ok (.rejected _) => rfl
  | .error _ => rfl

namespace Ingest

/-- One step of a thread that nobody interrupts. -/
def Next (a b : SharedQueue × Ingest) : Prop := a.2.step a.1 = some b

theorem enqueue_alone (s : SharedQueue) (p : Packet) (free : s.held = false) :
    ∃ s', Relation.ReflTransGen Next (s, .enter p)
        (s', .done ((s.queue.enqueue p).value.2.map fun _ => ())) ∧
      s'.held = false ∧ s'.filters = s.filters ∧ s'.queue = (s.queue.enqueue p).value.1 := by
  let entered : SharedQueue := { s with held := true }
  let offered := (entered.count .enqueued).offer p
  let outcome := (s.queue.queue.offer p).2
  let settled := offered.countAll (Offered.updatesHeld s.queue.queue outcome).tail
  have enter : Next (s, .enter p) (entered, .register p) := by simp [Next, step, free, entered]
  have work : Relation.ReflTransGen Next (entered, .register p)
      (({ settled with held := false } : SharedQueue).countAll (Offered.updatesReleased outcome),
        .done (outcome.map fun _ => ())) :=
    .head rfl (.head rfl (.head rfl (.head rfl (.single rfl))))
  refine ⟨_, .head enter work, ?_, ?_, ?_⟩
  · rw [SharedQueue.countAll_eq]
  · simp [SharedQueue.countAll_eq, settled, offered, SharedQueue.offer, SharedQueue.count, entered]
  · rw [SharedQueue.countAll_eq]
    simp only [MeteredQueue.enqueue]
    rw [Offered.updatesHeld_eq_cons]
    simp [settled, SharedQueue.countAll_eq, offered, SharedQueue.offer, SharedQueue.count, entered,
      Metrics.updateAll, outcome]

end Ingest

/-- The producer's work on one frame, if no other thread acts meanwhile. -/
theorem Session.ingest_alone {σ τ : Type} (s : Session σ τ) (ledger : Ledger) (sequence : Nat)
    (data : Bytes) :
    ∃ shared, Relation.ReflTransGen Ingest.Next
        ({ filters := s.filters, queue := s.queue, ledger := ledger },
          .capture { sequence := sequence, data := data })
        (shared, .done (s.ingest sequence data).value.2) ∧
      shared.held = false ∧
      (s.ingest sequence data).value.1 = { s with filters := shared.filters, queue := shared.queue } := by
  let packet : Packet := { sequence := sequence, data := data }
  let start : SharedQueue := { filters := s.filters, queue := s.queue, ledger := ledger }
  let counted := (start.capture packet).count (.bytes data.length)
  have begun : Relation.ReflTransGen Ingest.Next (start, .capture packet) (counted, .judge packet) :=
    .head rfl (.single rfl)
  cases judged : s.filters.firstRejection packet with
  | error fault =>
    have broken : Ingest.Next (counted, .judge packet)
        (counted.breakOver packet, .done (.error fault)) := by
      simp only [Ingest.Next, Ingest.step]
      rw [show counted.filters.firstRejection packet = _ from judged]
    have result : (s.ingest sequence data).value =
        ({ s with queue := counted.queue }, .error fault) := by
      simp only [ingest, judged, packet]
      rfl
    rw [result]
    exact ⟨_, begun.tail broken, rfl, rfl⟩
  | ok rejection =>
    cases rejection with
    | some rejecter =>
      have filtered : Ingest.Next (counted, .judge packet) (counted.filter packet, .dismiss) := by
        simp only [Ingest.Next, Ingest.step]
        rw [show counted.filters.firstRejection packet = _ from judged]
      have result : (s.ingest sequence data).value =
          ({ s with queue := (counted.count .filtered).queue }, .ok ()) := by
        simp only [ingest, judged, packet]
        rfl
      rw [result]
      exact ⟨_, (begun.tail filtered).tail rfl, rfl, rfl⟩
    | none =>
      have admitted : Ingest.Next (counted, .judge packet) (counted, .enter packet) := by
        simp only [Ingest.Next, Ingest.step]
        rw [show counted.filters.firstRejection packet = _ from judged]
      obtain ⟨shared, work, released, filters, queue⟩ := Ingest.enqueue_alone counted packet rfl
      have result : (s.ingest sequence data).value =
          ({ s with queue := (counted.queue.enqueue packet).value.1 },
            (counted.queue.enqueue packet).value.2.map fun _ => ()) := by
        have same : { s.queue with
            metrics := s.queue.metrics.updateAll (Metrics.capture data.length) } = counted.queue := rfl
        simp only [ingest, packet, same, bind, Traced.bind]
        simp only [packet] at judged
        rw [judged]
        cases (counted.queue.enqueue packet).value.2 with
        | error fault => rfl
        | ok offered =>
          simp only
          split <;> rfl
      rw [result]
      exact ⟨shared, (begun.tail admitted).trans work, released, by rw [filters, queue]; rfl⟩

namespace Taking

def Next (a b : SharedQueue × Taking) : Prop := a.2.step a.1 = some b

theorem count_alone (s : SharedQueue) (packets : List Packet) (n : Nat) :
    Relation.ReflTransGen Next (s, .count n packets)
      ({ s.countAll (List.replicate n .dequeued) with held := false }, .done packets) := by
  induction n generalizing s with
  | zero => exact .single rfl
  | succ n ih => exact .head rfl (ih (s.count .dequeued))

theorem take_alone (s : SharedQueue) (all : Bool) (free : s.held = false) :
    ∃ s', Relation.ReflTransGen Next (s, .enter all) (s', .done (s.taken all).2) ∧
      s'.held = false ∧ s'.filters = s.filters ∧
      s'.queue = ⟨(s.taken all).1,
        s.queue.metrics.updateAll (List.replicate (s.taken all).2.length .dequeued)⟩ := by
  let entered : SharedQueue := { s with held := true }
  have enter : Next (s, .enter all) (entered, .take all) := by simp [Next, step, free, entered]
  have same : entered.taken all = s.taken all := rfl
  have work : Relation.ReflTransGen Next (entered, .take all) _ :=
    .head rfl (count_alone (entered.take all) _ _)
  rw [same] at work
  refine ⟨_, .head enter work, rfl, ?_, ?_⟩ <;>
    simp [SharedQueue.countAll_eq, SharedQueue.take, same, entered]

theorem dequeue_alone (s : SharedQueue) (free : s.held = false) :
    ∃ s', Relation.ReflTransGen Next (s, .enter false) (s', .done s.queue.dequeue.value.2.toList) ∧
      s'.held = false ∧ s'.filters = s.filters ∧ s'.queue = s.queue.dequeue.value.1 := by
  obtain ⟨s', work, released, filters, queue⟩ := take_alone s false free
  have result : s.queue.dequeue.value = (s'.queue, s.queue.queue.packets.head?) := by
    rw [queue]
    cases packets : s.queue.queue.packets <;>
      simp [MeteredQueue.dequeue, SharedQueue.taken, PacketQueue.take, packets, Metrics.updateAll, pure]
  rw [result]
  exact ⟨s', work, released, filters, rfl⟩

theorem drain_alone (s : SharedQueue) (free : s.held = false) :
    ∃ s', Relation.ReflTransGen Next (s, .enter true) (s', .done s.queue.drain.2) ∧
      s'.held = false ∧ s'.filters = s.filters ∧ s'.queue = s.queue.drain.1 := by
  obtain ⟨s', work, released, filters, queue⟩ := take_alone s true free
  refine ⟨s', work, released, filters, ?_⟩
  rw [queue, MeteredQueue.drain]
  simp [SharedQueue.taken, PacketQueue.takeAll, List.map_const']

end Taking
end CaptureQueue
