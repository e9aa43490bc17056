import CaptureQueue.Proofs.Metrics.Tally
import CaptureQueue.Proofs.Threads.Step
import Mathlib.Data.List.Perm.Basic

/-! The balance that every single step keeps: each captured packet is in one place, and each counter
is behind what has become of the packets by the updates that threads still have before them. -/

set_option autoImplicit false
namespace CaptureQueue

-- One thread of several, and the others.
theorem exists_others {α : Type} {threads : List α} {index : Nat} {thread : α}
    (found : threads[index]? = some thread) :
    ∃ others, threads.Perm (thread :: others) ∧
      ∀ next, (threads.set index next).Perm (next :: others) := by
  obtain ⟨bound, rfl⟩ := List.getElem?_eq_some_iff.mp found
  exact ⟨threads.eraseIdx index, (List.getElem_cons_eraseIdx_perm bound).symm,
    fun next => List.set_perm_cons_eraseIdx bound next⟩

theorem countP_cons_toNat {α : Type} (p : α → Bool) (a : α) (as : List α) :
    (a :: as).countP p = as.countP p + (p a).toNat := by
  rw [List.countP_cons]
  cases p a <;> rfl

theorem countP_set_toNat {α : Type} {threads : List α} {index : Nat} {thread : α}
    (found : threads[index]? = some thread) (p : α → Bool) (next : α) :
    (threads.set index next).countP p + (p thread).toNat = threads.countP p + (p next).toNat := by
  obtain ⟨others, was, now⟩ := exists_others found
  rw [was.countP_eq, (now next).countP_eq, countP_cons_toNat, countP_cons_toNat]
  omega

namespace Ingest

/-- Updates that are due for what is decided already, apart from those of captured and enqueued. -/
def pending : Ingest → List MetricUpdate
  | .measure p => [.bytes p.data.length]
  | .dismiss => [.filtered]
  | .settle asked outcome =>
    (Offered.updatesHeld asked outcome).tail ++ Offered.updatesReleased outcome
  | .release outcome | .leave outcome => Offered.updatesReleased outcome
  | _ => []

def carried : Ingest → List Packet
  | .measure p | .judge p | .enter p | .register p | .decide p => [p]
  | _ => []

def entered : Ingest → Nat
  | .decide _ => 1
  | _ => 0

end Ingest

namespace Taking

def pending : Taking → List MetricUpdate
  | .count n _ => List.replicate n .dequeued
  | _ => []

def packets : Taking → List Packet
  | .count _ packets | .done packets => packets
  | _ => []

end Taking

namespace Counter

theorem tally_eq_zero {c : Counter} {us : List MetricUpdate} (other : ∀ u ∈ us, u.counter ≠ c) :
    c.tally us = 0 := by
  simpa [tally, List.countP_eq_zero] using other

theorem dequeued_tally_replicate (n : Nat) :
    Counter.dequeued.tally (List.replicate n .dequeued) = n := by
  simp [tally, MetricUpdate.counter, List.countP_replicate]

end Counter

namespace Offered

theorem tally_dropped (asked : PacketQueue) (outcome : Except Fault Offered) :
    Counter.dropped.tally ((updatesHeld asked outcome).tail ++ updatesReleased outcome) =
      (named outcome).length := by
  match outcome with
  | .ok .accepted => rfl
  | .ok (.dropped _ _) => rfl
  | .ok (.rejected _) => rfl
  | .error _ => rfl

theorem tally_rejected (asked : PacketQueue) (outcome : Except Fault Offered) :
    Counter.rejected.tally ((updatesHeld asked outcome).tail ++ updatesReleased outcome) =
      (returned outcome).length := by
  match outcome with
  | .ok .accepted => rfl
  | .ok (.dropped _ _) => rfl
  | .ok (.rejected _) => rfl
  | .error _ => rfl

-- After the first update under the lock no packet is counted as captured, filtered, enqueued or
-- dequeued on account of an offer.
theorem counter_of_mem_later (asked : PacketQueue) (outcome : Except Fault Offered) {u : MetricUpdate}
    (later : u ∈ (updatesHeld asked outcome).tail ++ updatesReleased outcome) :
    u.counter = .highWater ∨ u.counter = .rejected ∨ u.counter = .dropped := by
  match outcome, later with
  | .ok .accepted, later => simp_all [updatesHeld, updatesReleased, MetricUpdate.counter]
  | .ok (.dropped _ _), later => simp_all [updatesHeld, updatesReleased, MetricUpdate.counter]
  | .ok (.rejected _), later => simp_all [updatesHeld, updatesReleased, MetricUpdate.counter]
  | .error _, later => simp_all [updatesHeld, updatesReleased]

end Offered

/-- Only a thread at work on the queue has counts of drops and refusals before it. -/
theorem Ingest.counter_of_mem_pending {i : Ingest} (away : i.atQueue = false) {u : MetricUpdate}
    (due : u ∈ i.pending) : u.counter = .bytes ∨ u.counter = .filtered := by
  cases i with
  | measure p => simp_all [pending, MetricUpdate.counter]
  | dismiss => simp_all [pending, MetricUpdate.counter]
  | settle asked outcome => cases away
  | release outcome => cases away
  | leave outcome => cases away
  | capture | judge | enter | register | decide | done => cases due

theorem Ingest.entered_eq_zero {i : Ingest} (away : i.atQueue = false) : i.entered = 0 := by
  cases i <;> first | rfl | cases away

theorem Taking.pending_eq_nil {t : Taking} (away : t.atQueue = false) : t.pending = [] := by
  cases t <;> first | rfl | cases away

namespace SharedQueue

theorem countAll_eq (s : SharedQueue) (us : List MetricUpdate) :
    s.countAll us = { s with
      queue := { s.queue with metrics := s.queue.metrics.updateAll us }
      ledger := { s.ledger with updates := s.ledger.updates ++ us } } := by
  induction us generalizing s with
  | nil => simp [countAll, Metrics.updateAll]
  | cons u us ih =>
    have rest : s.countAll (u :: us) = (s.count u).countAll us := rfl
    rw [rest, ih]
    simp [count, Metrics.updateAll]

theorem taken_conserves (s : SharedQueue) (all : Bool) :
    (s.taken all).2 ++ (s.taken all).1.packets = s.queue.queue.packets := by
  cases all
  · exact s.queue.queue.take_conserves
  · simp [taken, PacketQueue.takeAll]

theorem taken_capacity (s : SharedQueue) (all : Bool) :
    (s.taken all).1.capacity = s.queue.queue.capacity := by
  cases all <;> rfl

/-- All packets of which something has become, and those that threads have in their hands. -/
def accounted (s : SharedQueue) (ingests : List Ingest) : List Nat :=
  (s.ledger.filtered ++ s.ledger.unjudged ++ s.queue.queue.packets ++ s.ledger.handed ++
    s.ledger.rejected ++ s.ledger.undecided ++ ingests.flatMap Ingest.carried).map Packet.sequence ++
    s.ledger.dropped

end SharedQueue

/-- The books of a queue and of the threads at work on it. -/
structure Balanced (s : SharedQueue) (ingests : List Ingest) (takings : List Taking) : Prop where
  positive : 0 < s.queue.queue.capacity
  metrics : s.queue.metrics = Metrics.zero.updateAll s.ledger.updates
  captured : Counter.captured.tally s.ledger.updates = s.ledger.captured.length
  enqueued : Counter.enqueued.tally s.ledger.updates = s.queue.queue.packets.length +
    s.ledger.handed.length + s.ledger.dropped.length + s.ledger.rejected.length +
    s.ledger.undecided.length + (ingests.map Ingest.entered).sum
  filtered : Counter.filtered.tally (s.ledger.updates ++ ingests.flatMap Ingest.pending) =
    s.ledger.filtered.length
  dropped : Counter.dropped.tally (s.ledger.updates ++ ingests.flatMap Ingest.pending) =
    s.ledger.dropped.length
  rejected : Counter.rejected.tally (s.ledger.updates ++ ingests.flatMap Ingest.pending) =
    s.ledger.rejected.length
  dequeued : Counter.dequeued.tally (s.ledger.updates ++ takings.flatMap Taking.pending) =
    s.ledger.handed.length
  received : s.ledger.handed.Perm (takings.flatMap Taking.packets)
  fates : (s.ledger.captured.map Packet.sequence).Perm (s.accounted ingests)

namespace Balanced

variable {s s' : SharedQueue} {i i' : Ingest} {t t' : Taking} {ingests : List Ingest}
  {takings : List Taking}

theorem perm {others : List Ingest} {takers : List Taking} (h : Balanced s ingests takings)
    (same : ingests.Perm others) (sameTakers : takings.Perm takers) : Balanced s others takers where
  positive := h.positive
  metrics := h.metrics
  captured := h.captured
  enqueued := by rw [h.enqueued, (same.map Ingest.entered).sum_nat]
  filtered := by
    rw [← h.filtered]
    exact Counter.tally_perm _ ((same.flatMap_right _).symm.append_left _)
  dropped := by
    rw [← h.dropped]
    exact Counter.tally_perm _ ((same.flatMap_right _).symm.append_left _)
  rejected := by
    rw [← h.rejected]
    exact Counter.tally_perm _ ((same.flatMap_right _).symm.append_left _)
  dequeued := by
    rw [← h.dequeued]
    exact Counter.tally_perm _ ((sameTakers.flatMap_right _).symm.append_left _)
  received := h.received.trans (sameTakers.flatMap_right _)
  fates := h.fates.trans ((((same.flatMap_right _).append_left _).map _).append_right _)

-- A thread that ingests makes updates that were due, and its packet stays where it is.
theorem count_ingest (h : Balanced s (i :: ingests) takings) (us : List MetricUpdate)
    (due : i.pending = us ++ i'.pending) (carried : i'.carried = i.carried)
    (entered : i'.entered = i.entered)
    (late : ∀ u ∈ us, u.counter ≠ .captured ∧ u.counter ≠ .enqueued ∧ u.counter ≠ .dequeued) :
    Balanced (s.countAll us) (i' :: ingests) takings := by
  have noCaptured : Counter.captured.tally us = 0 := Counter.tally_eq_zero fun u m => (late u m).1
  have noEnqueued : Counter.enqueued.tally us = 0 := Counter.tally_eq_zero fun u m => (late u m).2.1
  have noDequeued : Counter.dequeued.tally us = 0 := Counter.tally_eq_zero fun u m => (late u m).2.2
  obtain ⟨positive, metrics, captured, enqueued, filtered, dropped, rejected, dequeued, received,
    fates⟩ := h
  rw [SharedQueue.countAll_eq]
  simp only [List.flatMap_cons, List.map_cons, List.sum_cons, due, Counter.tally_append]
    at filtered dropped rejected dequeued enqueued
  constructor
  · exact positive
  · simp [metrics, Metrics.updateAll]
  · simp [captured, noCaptured]
  · simp [enqueued, noEnqueued, entered]
  · simp only [List.flatMap_cons, Counter.tally_append]; omega
  · simp only [List.flatMap_cons, Counter.tally_append]; omega
  · simp only [List.flatMap_cons, Counter.tally_append]; omega
  · simp only [Counter.tally_append]; omega
  · exact received
  · simpa [SharedQueue.accounted, carried] using fates

theorem pass (h : Balanced s (i :: ingests) takings) (due : i.pending = i'.pending)
    (carried : i'.carried = i.carried) (entered : i'.entered = i.entered) :
    Balanced s (i' :: ingests) takings :=
  h.count_ingest [] (by simpa using due) carried entered (by simp)

theorem pass_taking (h : Balanced s ingests (t :: takings)) (due : t'.pending = t.pending)
    (packets : t'.packets = t.packets) : Balanced s ingests (t' :: takings) where
  positive := h.positive
  metrics := h.metrics
  captured := h.captured
  enqueued := h.enqueued
  filtered := h.filtered
  dropped := h.dropped
  rejected := h.rejected
  dequeued := by simpa only [List.flatMap_cons, due] using h.dequeued
  received := by simpa only [List.flatMap_cons, packets] using h.received
  fates := h.fates

-- The lock and the filters have no part in the books.
theorem of_eq (h : Balanced s ingests takings) (queue : s'.queue.queue.packets = s.queue.queue.packets)
    (capacity : s'.queue.queue.capacity = s.queue.queue.capacity)
    (metrics : s'.queue.metrics = s.queue.metrics) (ledger : s'.ledger = s.ledger) :
    Balanced s' ingests takings := by
  obtain ⟨positive, counters, captured, enqueued, filtered, dropped, rejected, dequeued, received,
    fates⟩ := h
  constructor
  · rwa [capacity]
  · rw [metrics, ledger, counters]
  · rwa [ledger]
  · rwa [ledger, queue]
  · rwa [ledger]
  · rwa [ledger]
  · rwa [ledger]
  · rwa [ledger]
  · rwa [ledger]
  · simpa only [SharedQueue.accounted, ledger, queue] using fates

theorem capture {p : Packet} (h : Balanced s (.capture p :: ingests) takings) :
    Balanced (s.capture p) (.measure p :: ingests) takings := by
  obtain ⟨positive, metrics, captured, enqueued, filtered, dropped, rejected, dequeued, received,
    fates⟩ := h
  simp only [List.flatMap_cons, List.map_cons, List.sum_cons, Ingest.pending, Ingest.entered,
    Counter.tally_append, Counter.tally_nil] at filtered dropped rejected dequeued enqueued
  constructor
  · exact positive
  · simp [SharedQueue.capture, SharedQueue.count, metrics, Metrics.updateAll_concat]
  · simp [SharedQueue.capture, SharedQueue.count, captured, Counter.tally_cons, MetricUpdate.counter]
  · simp [SharedQueue.capture, SharedQueue.count, Ingest.entered, Counter.tally_cons,
      MetricUpdate.counter, enqueued]
  · simp [SharedQueue.capture, SharedQueue.count, Ingest.pending, Counter.tally_cons,
      MetricUpdate.counter, ← filtered]
  · simp [SharedQueue.capture, SharedQueue.count, Ingest.pending, Counter.tally_cons,
      MetricUpdate.counter, ← dropped]
  · simp [SharedQueue.capture, SharedQueue.count, Ingest.pending, Counter.tally_cons,
      MetricUpdate.counter, ← rejected]
  · simp [SharedQueue.capture, SharedQueue.count, Counter.tally_cons, MetricUpdate.counter,
      ← dequeued]
  · exact received
  · simp only [SharedQueue.accounted, List.perm_iff_count] at fates ⊢
    intro n
    have before := fates n
    simp only [SharedQueue.capture, SharedQueue.count, Ingest.carried, List.flatMap_cons,
      List.map_append, List.map_cons, List.map_nil, List.nil_append, List.count_append] at before ⊢
    omega

theorem filter {p : Packet} (h : Balanced s (.judge p :: ingests) takings) :
    Balanced (s.filter p) (.dismiss :: ingests) takings := by
  obtain ⟨positive, metrics, captured, enqueued, filtered, dropped, rejected, dequeued, received,
    fates⟩ := h
  simp only [List.flatMap_cons, Ingest.pending, Counter.tally_append, Counter.tally_nil]
    at filtered dropped rejected
  refine ⟨positive, metrics, captured, enqueued, ?_, ?_, ?_, dequeued, received, ?_⟩
  · simp only [SharedQueue.filter, List.flatMap_cons, Ingest.pending, Counter.tally_append,
      Counter.tally_cons, Counter.tally_nil, MetricUpdate.counter, if_true, List.length_append,
      List.length_singleton]
    omega
  · simp [SharedQueue.filter, Ingest.pending, Counter.tally_cons, MetricUpdate.counter, ← dropped]
  · simp [SharedQueue.filter, Ingest.pending, Counter.tally_cons, MetricUpdate.counter, ← rejected]
  · simp only [SharedQueue.accounted, List.perm_iff_count] at fates ⊢
    intro n
    have before := fates n
    simp only [SharedQueue.filter, Ingest.carried, List.flatMap_cons, List.map_append, List.map_cons,
      List.map_nil, List.nil_append, List.count_append] at before ⊢
    omega

theorem breakOver {p : Packet} {fault : Fault} (h : Balanced s (.judge p :: ingests) takings) :
    Balanced (s.breakOver p) (.done (.error fault) :: ingests) takings := by
  obtain ⟨positive, metrics, captured, enqueued, filtered, dropped, rejected, dequeued, received,
    fates⟩ := h
  refine ⟨positive, metrics, captured, enqueued, filtered, dropped, rejected, dequeued, received,
    ?_⟩
  simp only [SharedQueue.accounted, List.perm_iff_count] at fates ⊢
  intro n
  have before := fates n
  simp only [SharedQueue.breakOver, Ingest.carried, List.flatMap_cons, List.map_append, List.map_cons,
    List.map_nil, List.nil_append, List.count_append] at before ⊢
  omega

theorem register {p : Packet} (h : Balanced s (.register p :: ingests) takings) :
    Balanced (s.count .enqueued) (.decide p :: ingests) takings := by
  obtain ⟨positive, metrics, captured, enqueued, filtered, dropped, rejected, dequeued, received,
    fates⟩ := h
  simp only [List.flatMap_cons, List.map_cons, List.sum_cons, Ingest.pending, Ingest.entered,
    Counter.tally_append, Counter.tally_nil] at filtered dropped rejected dequeued enqueued
  constructor
  · exact positive
  · simp [SharedQueue.count, metrics, Metrics.updateAll_concat]
  · simp [SharedQueue.count, captured, Counter.tally_cons, MetricUpdate.counter]
  · simp only [SharedQueue.count, Counter.tally_append, Counter.tally_cons, Counter.tally_nil,
      MetricUpdate.counter, if_true, List.map_cons, Ingest.entered, List.sum_cons]
    omega
  · simp [SharedQueue.count, Ingest.pending, Counter.tally_cons, MetricUpdate.counter, ← filtered]
  · simp [SharedQueue.count, Ingest.pending, Counter.tally_cons, MetricUpdate.counter, ← dropped]
  · simp [SharedQueue.count, Ingest.pending, Counter.tally_cons, MetricUpdate.counter, ← rejected]
  · simp [SharedQueue.count, Counter.tally_cons, MetricUpdate.counter, ← dequeued]
  · exact received
  · exact fates

/-- The decision on a packet. By `PacketQueue.offer_conserves` the outcome names what is lost, so
that the books gain what the queue and the thread part with. -/
theorem offer {p : Packet} (h : Balanced s (.decide p :: ingests) takings) :
    Balanced (s.offer p) (.settle s.queue.queue (s.queue.queue.offer p).2 :: ingests) takings := by
  obtain ⟨positive, metrics, captured, enqueued, filtered, dropped, rejected, dequeued, received,
    fates⟩ := h
  obtain ⟨discarded, named, conserved⟩ := s.queue.queue.offer_conserves p positive
  simp only [List.flatMap_cons, List.map_cons, List.sum_cons, Ingest.pending, Ingest.entered,
    Counter.tally_append, Counter.tally_nil] at filtered dropped rejected enqueued
  have noFiltered : Counter.filtered.tally ((Offered.updatesHeld s.queue.queue
      (s.queue.queue.offer p).2).tail ++ Offered.updatesReleased (s.queue.queue.offer p).2) = 0 :=
    Counter.tally_eq_zero fun u later => by
      rcases Offered.counter_of_mem_later _ _ later with same | same | same <;> simp [same]
  have droppedLater := Offered.tally_dropped s.queue.queue (s.queue.queue.offer p).2
  have rejectedLater := Offered.tally_rejected s.queue.queue (s.queue.queue.offer p).2
  rw [Counter.tally_append] at noFiltered droppedLater rejectedLater
  have size := conserved.complete.length_eq
  have sizeNamed := congrArg List.length named
  simp only [List.length_append, List.length_map, List.length_singleton] at size sizeNamed
  constructor
  · simpa [SharedQueue.offer] using positive
  · exact metrics
  · exact captured
  · simp only [SharedQueue.offer, List.length_append, List.map_cons, List.sum_cons, Ingest.entered]
    omega
  · simp only [SharedQueue.offer, List.flatMap_cons, Ingest.pending, Counter.tally_append]
    omega
  · simp only [SharedQueue.offer, List.flatMap_cons, Ingest.pending, Counter.tally_append,
      List.length_append]
    omega
  · simp only [SharedQueue.offer, List.flatMap_cons, Ingest.pending, Counter.tally_append,
      List.length_append]
    omega
  · exact dequeued
  · exact received
  -- what the queue held and the offered packet are what it holds now and what the outcome names
  · have moved := conserved.complete.map Packet.sequence
    simp only [SharedQueue.accounted, List.perm_iff_count] at fates moved ⊢
    intro n
    have before := fates n
    have move := moved n
    simp only [SharedQueue.offer, Ingest.carried, List.flatMap_cons, List.map_append, List.map_cons,
      List.map_nil, List.nil_append, List.count_append, ← named] at before move ⊢
    omega

theorem take {all : Bool} (h : Balanced s ingests (.take all :: takings)) :
    Balanced (s.take all) ingests (.count (s.taken all).2.length (s.taken all).2 :: takings) := by
  obtain ⟨positive, metrics, captured, enqueued, filtered, dropped, rejected, dequeued, received,
    fates⟩ := h
  have same := s.taken_conserves all
  have size := congrArg List.length same
  simp only [List.flatMap_cons, Taking.pending, Counter.tally_append, Counter.tally_nil] at dequeued
  simp only [List.length_append] at size
  refine ⟨?_, metrics, captured, ?_, filtered, dropped, rejected, ?_, ?_, ?_⟩
  · simpa [SharedQueue.take, s.taken_capacity all] using positive
  · simp only [SharedQueue.take, List.length_append]
    omega
  · simp only [SharedQueue.take, List.flatMap_cons, Taking.pending, Counter.tally_append,
      Counter.dequeued_tally_replicate, List.length_append]
    omega
  · simp only [List.flatMap_cons, Taking.packets, List.nil_append] at received
    exact (received.append_right _).trans List.perm_append_comm
  · simp only [SharedQueue.accounted, List.perm_iff_count] at fates ⊢
    intro n
    have before := fates n
    rw [← same] at before
    simp only [SharedQueue.take, List.map_append, List.count_append] at before ⊢
    omega

theorem count_taking {n : Nat} {packets : List Packet}
    (h : Balanced s ingests (.count (n + 1) packets :: takings)) :
    Balanced (s.count .dequeued) ingests (.count n packets :: takings) := by
  obtain ⟨positive, metrics, captured, enqueued, filtered, dropped, rejected, dequeued, received,
    fates⟩ := h
  simp only [List.flatMap_cons, Taking.pending, Counter.tally_append, Counter.dequeued_tally_replicate]
    at dequeued filtered dropped rejected
  constructor
  · exact positive
  · simp [SharedQueue.count, metrics, Metrics.updateAll_concat]
  · simp [SharedQueue.count, captured, Counter.tally_cons, MetricUpdate.counter]
  · simp [SharedQueue.count, Counter.tally_cons, MetricUpdate.counter, enqueued]
  · simp [SharedQueue.count, Counter.tally_cons, MetricUpdate.counter, ← filtered]
  · simp [SharedQueue.count, Counter.tally_cons, MetricUpdate.counter, ← dropped]
  · simp [SharedQueue.count, Counter.tally_cons, MetricUpdate.counter, ← rejected]
  · simp only [SharedQueue.count, List.flatMap_cons, Taking.pending, Counter.tally_append,
      Counter.tally_cons, Counter.tally_nil, Counter.dequeued_tally_replicate, MetricUpdate.counter,
      if_true]
    omega
  · exact received
  · exact fates

/-! ## Whole steps -/

theorem ingest_step (h : Balanced s (i :: ingests) takings) (stepped : i.step s = some (s', i')) :
    Balanced s' (i' :: ingests) takings := by
  cases i with
  | capture p =>
    cases stepped
    exact h.capture
  | measure p =>
    cases stepped
    exact h.count_ingest [.bytes p.data.length] rfl rfl rfl (by simp [MetricUpdate.counter])
  | judge p =>
    simp only [Ingest.step] at stepped
    split at stepped <;> cases stepped
    · exact h.breakOver
    · exact h.filter
    · exact h.pass rfl rfl rfl
  | dismiss =>
    cases stepped
    exact h.count_ingest [.filtered] rfl rfl rfl (by simp [MetricUpdate.counter])
  | enter p =>
    simp only [Ingest.step] at stepped
    split at stepped <;> cases stepped
    have entered : Balanced s (.register p :: ingests) takings := h.pass rfl rfl rfl
    exact entered.of_eq rfl rfl rfl rfl
  | register p =>
    cases stepped
    exact h.register
  | decide p =>
    cases stepped
    exact h.offer
  | settle asked outcome =>
    cases stepped
    refine h.count_ingest _ rfl rfl rfl fun u member => ?_
    rcases Offered.counter_of_mem_later asked outcome (List.mem_append_left _ member) with
      same | same | same <;> simp [same]
  | release outcome =>
    cases stepped
    have left : Balanced s (.leave outcome :: ingests) takings := h.pass rfl rfl rfl
    exact left.of_eq rfl rfl rfl rfl
  | leave outcome =>
    cases stepped
    refine h.count_ingest _ (by simp [Ingest.pending]) rfl rfl fun u member => ?_
    rcases Offered.counter_of_mem_later s.queue.queue outcome (List.mem_append_right _ member) with
      same | same | same <;> simp [same]
  | done result => cases stepped

theorem taking_step (h : Balanced s ingests (t :: takings)) (stepped : t.step s = some (s', t')) :
    Balanced s' ingests (t' :: takings) := by
  cases t with
  | enter all =>
    simp only [Taking.step] at stepped
    split at stepped <;> cases stepped
    have entered : Balanced s ingests (.take all :: takings) := h.pass_taking rfl rfl
    exact entered.of_eq rfl rfl rfl rfl
  | take all =>
    cases stepped
    exact h.take
  | count n packets =>
    cases n with
    | zero =>
      cases stepped
      have left : Balanced s ingests (.done packets :: takings) := h.pass_taking rfl rfl
      exact left.of_eq rfl rfl rfl rfl
    | succ n =>
      cases stepped
      exact h.count_taking
  | done packets => cases stepped

theorem edit_step {e : Edit} (h : Balanced s ingests takings) (stepped : e.step s = some s') :
    Balanced s' ingests takings := by
  cases e with
  | addFilter p => cases stepped; exact h.of_eq rfl rfl rfl rfl
  | removeFilter id => cases stepped; exact h.of_eq rfl rfl rfl rfl
  | setStrategy strategy =>
    simp only [Edit.step] at stepped
    split at stepped <;> cases stepped
    exact h.of_eq rfl rfl rfl rfl

theorem begin_ingest (p : Packet) (h : Balanced s ingests takings) :
    Balanced s (.capture p :: ingests) takings :=
  ⟨h.positive, h.metrics, h.captured, by simpa [Ingest.entered] using h.enqueued, h.filtered,
    h.dropped, h.rejected, h.dequeued, h.received, h.fates⟩

theorem begin_taking (all : Bool) (h : Balanced s ingests takings) :
    Balanced s ingests (.enter all :: takings) :=
  ⟨h.positive, h.metrics, h.captured, h.enqueued, h.filtered, h.dropped, h.rejected, h.dequeued,
    h.received, h.fates⟩

-- A thread that is through can be forgotten.
theorem end_ingest {result : Except Fault Unit} (h : Balanced s (.done result :: ingests) takings) :
    Balanced s ingests takings :=
  ⟨h.positive, h.metrics, h.captured, by simpa [Ingest.entered] using h.enqueued, h.filtered,
    h.dropped, h.rejected, h.dequeued, h.received, h.fates⟩

theorem start (filters : FilterChain) {queue : PacketQueue} (positive : 0 < queue.capacity)
    (empty : queue.packets = []) :
    Balanced { filters := filters, queue := { queue := queue } } [] [] :=
  ⟨positive, rfl, rfl, by simp [empty], rfl, rfl, rfl, rfl, .refl _,
    by simp [SharedQueue.accounted, empty]⟩

/-! ## What the books say of the counters -/

theorem length_captured (h : Balanced s ingests takings) :
    s.ledger.captured.length = s.ledger.filtered.length + s.ledger.unjudged.length +
      s.queue.queue.packets.length + s.ledger.handed.length + s.ledger.rejected.length +
      s.ledger.undecided.length + (ingests.flatMap Ingest.carried).length +
      s.ledger.dropped.length := by
  simpa [SharedQueue.accounted, Nat.add_assoc] using h.fates.length_eq

theorem entered_le_carried (ingests : List Ingest) :
    (ingests.map Ingest.entered).sum ≤ (ingests.flatMap Ingest.carried).length := by
  induction ingests with
  | nil => simp
  | cons i ingests ih =>
    have one : i.entered ≤ i.carried.length := by cases i <;> simp [Ingest.entered, Ingest.carried]
    simp only [List.map_cons, List.sum_cons, List.flatMap_cons, List.length_append]
    omega

theorem captured_covers (h : Balanced s ingests takings) :
    Counter.filtered.tally s.ledger.updates + Counter.enqueued.tally s.ledger.updates ≤
      Counter.captured.tally s.ledger.updates := by
  have filtered := h.filtered
  have enqueued := h.enqueued
  have captured := h.captured
  have size := h.length_captured
  have entered := entered_le_carried ingests
  rw [Counter.tally_append] at filtered
  omega

theorem enqueued_covers (h : Balanced s ingests takings) :
    Counter.dequeued.tally s.ledger.updates + Counter.dropped.tally s.ledger.updates +
      Counter.rejected.tally s.ledger.updates ≤ Counter.enqueued.tally s.ledger.updates := by
  have dequeued := h.dequeued
  have dropped := h.dropped
  have rejected := h.rejected
  have enqueued := h.enqueued
  rw [Counter.tally_append] at dequeued dropped rejected
  omega

theorem value_eq (h : Balanced s ingests takings) {c : Counter} (counts : c.CountsEvents) :
    c.value s.queue.metrics = UInt64.ofNat (c.tally s.ledger.updates) := by
  have zero : c.value Metrics.zero = 0 := by cases c <;> rfl
  rw [h.metrics, Counter.value_updateAll _ _ counts, zero, UInt64.zero_add]

/-- While fewer than 2 ^ 64 packets are captured no counter of events wraps. -/
theorem toNat_value (h : Balanced s ingests takings) (few : s.ledger.captured.length < 2 ^ 64)
    {c : Counter} (counts : c.CountsEvents) :
    (c.value s.queue.metrics).toNat = c.tally s.ledger.updates := by
  have captured := h.captured
  have upstream := h.captured_covers
  have downstream := h.enqueued_covers
  obtain ⟨notBytes, notHighWater⟩ := counts
  rw [h.metrics]
  refine Counter.toNat_value_updateAll ⟨notBytes, notHighWater⟩ ?_
  cases c <;> first | contradiction | omega

/-- While no thread is at work on the queue the counters show the sizes of the classes. -/
theorem counters_of_quiet (h : Balanced s ingests takings)
    (few : s.ledger.captured.length < 2 ^ 64) (away : ∀ i ∈ ingests, i.atQueue = false)
    (takersAway : ∀ t ∈ takings, t.atQueue = false) :
    s.queue.metrics.captured.toNat = s.ledger.captured.length ∧
      s.queue.metrics.dropped.toNat = s.ledger.dropped.length ∧
      s.queue.metrics.rejected.toNat = s.ledger.rejected.length ∧
      s.queue.metrics.dequeued.toNat = s.ledger.handed.length ∧
      s.queue.metrics.enqueued.toNat = s.queue.queue.packets.length + s.ledger.handed.length +
        s.ledger.dropped.length + s.ledger.rejected.length + s.ledger.undecided.length := by
  have noneDue : ∀ c : Counter, c ≠ .bytes → c ≠ .filtered →
      c.tally (ingests.flatMap Ingest.pending) = 0 := by
    intro c notBytes notFiltered
    refine Counter.tally_eq_zero fun u due => ?_
    obtain ⟨i, member, due⟩ := List.mem_flatMap.mp due
    rcases Ingest.counter_of_mem_pending (away i member) due with same | same <;> rw [same]
    · exact notBytes.symm
    · exact notFiltered.symm
  have noneEntered : (ingests.map Ingest.entered).sum = 0 := by
    refine List.sum_eq_zero_iff_forall_eq_nat.mpr fun n member => ?_
    obtain ⟨i, present, rfl⟩ := List.mem_map.mp member
    exact Ingest.entered_eq_zero (away i present)
  have noneTaken : takings.flatMap Taking.pending = [] :=
    List.flatMap_eq_nil_iff.mpr fun t member => Taking.pending_eq_nil (takersAway t member)
  have dropped := h.dropped
  have rejected := h.rejected
  have dequeued := h.dequeued
  have enqueued := h.enqueued
  rw [Counter.tally_append, noneDue _ (by decide) (by decide), Nat.add_zero] at dropped rejected
  rw [noneTaken, List.append_nil] at dequeued
  rw [noneEntered, Nat.add_zero] at enqueued
  have value := fun (c : Counter) (counts : c.CountsEvents) => h.toNat_value few counts
  exact ⟨(value .captured (by decide)).trans h.captured, (value .dropped (by decide)).trans dropped,
    (value .rejected (by decide)).trans rejected, (value .dequeued (by decide)).trans dequeued,
    (value .enqueued (by decide)).trans enqueued⟩

theorem tallies_of_quiet (h : Balanced s [] takings) (away : ∀ t ∈ takings, t.atQueue = false) :
    Counter.captured.tally s.ledger.updates = Counter.filtered.tally s.ledger.updates +
      Counter.enqueued.tally s.ledger.updates + s.ledger.unjudged.length ∧
    Counter.enqueued.tally s.ledger.updates = s.queue.queue.packets.length +
      Counter.dequeued.tally s.ledger.updates + Counter.dropped.tally s.ledger.updates +
      Counter.rejected.tally s.ledger.updates + s.ledger.undecided.length ∧
    (takings.flatMap Taking.packets).length = Counter.dequeued.tally s.ledger.updates := by
  have noneTaken : takings.flatMap Taking.pending = [] :=
    List.flatMap_eq_nil_iff.mpr fun t member => Taking.pending_eq_nil (away t member)
  have captured := h.captured
  have enqueued := h.enqueued
  have filtered := h.filtered
  have dropped := h.dropped
  have rejected := h.rejected
  have dequeued := h.dequeued
  have received := h.received.length_eq
  have size := h.length_captured
  simp only [List.flatMap_nil, List.append_nil, List.map_nil, List.sum_nil, noneTaken,
    List.length_nil] at enqueued filtered dropped rejected dequeued size
  omega

theorem values_of_quiet (h : Balanced s [] takings) (away : ∀ t ∈ takings, t.atQueue = false) :
    let metrics := s.queue.metrics
    metrics.captured =
      metrics.filtered + metrics.enqueued + .ofNat s.ledger.unjudged.length ∧
    metrics.enqueued = .ofNat s.queue.queue.packets.length + metrics.dequeued + metrics.dropped +
      metrics.rejected + .ofNat s.ledger.undecided.length ∧
    UInt64.ofNat (takings.flatMap Taking.packets).length = metrics.dequeued := by
  intro metrics
  obtain ⟨upstream, downstream, received⟩ := h.tallies_of_quiet away
  have captured : metrics.captured = _ := h.value_eq (c := .captured) (by decide)
  have filtered : metrics.filtered = _ := h.value_eq (c := .filtered) (by decide)
  have enqueued : metrics.enqueued = _ := h.value_eq (c := .enqueued) (by decide)
  have dequeued : metrics.dequeued = _ := h.value_eq (c := .dequeued) (by decide)
  have dropped : metrics.dropped = _ := h.value_eq (c := .dropped) (by decide)
  have rejected : metrics.rejected = _ := h.value_eq (c := .rejected) (by decide)
  refine ⟨?_, ?_, by rw [received, dequeued]⟩
  · simp only [captured, filtered, enqueued, upstream, UInt64.ofNat_add]
  · simp only [enqueued, dequeued, dropped, rejected, downstream, UInt64.ofNat_add]

end Balanced
end CaptureQueue
