import CaptureQueue.Proofs.Metrics.Tally
import CaptureQueue.Proofs.Queue.History
import Mathlib.Data.List.Induction
import Mathlib.Order.Bounds.Basic

/-! How full a queue gets, and what its strategy is asked. A queue is never fuller than its capacity,
both of its high-water marks tell the most it ever held, and the strategy is asked once by every offer
to a full queue, and by nothing else. -/

set_option autoImplicit false
namespace CaptureQueue

/-! ## Asking a strategy -/

/-- One question to a strategy: how often it was asked before, and what it is shown. -/
structure Consultation where
  turn : Nat
  view : QueueView
  incoming : Packet

def DropStrategy.answer (s : DropStrategy) (c : Consultation) : Except Fault DropDecision :=
  s.onOverflow c.turn c.view c.incoming

namespace PacketQueue

def under (q : PacketQueue) (s : DropStrategy) : PacketQueue := { q with strategy := s }

def asked (q : PacketQueue) : PacketQueue := { q with consultations := q.consultations + 1 }

def settle (q : PacketQueue) (p : Packet) :
    Except Fault DropDecision → PacketQueue × Except Fault Offered
  | .ok decision => ((q.asked.overflow p decision).1, .ok (q.asked.overflow p decision).2)
  | .error fault => (q.asked, .error fault)

theorem offer_of_room {q : PacketQueue} (room : q.packets.length < q.capacity) (p : Packet) :
    q.offer p = (q.push p, .ok .accepted) := by
  have free : q.hasRoom = true := decide_eq_true room
  rw [offer, if_pos free]

theorem offer_of_full {q : PacketQueue} (full : q.capacity ≤ q.packets.length) (p : Packet) :
    q.offer p = q.settle p (q.strategy.onOverflow q.consultations q.view p) := by
  have taken : ¬ q.hasRoom = true := by simpa [hasRoom] using full
  rw [offer, if_neg taken]
  cases q.strategy.onOverflow q.consultations q.view p <;> rfl

theorem overflow_under (q : PacketQueue) (s : DropStrategy) (p : Packet) (decision : DropDecision) :
    (q.under s).overflow p decision =
      ((q.overflow p decision).1.under s, (q.overflow p decision).2) := by
  cases decision <;> rfl

theorem settle_under (q : PacketQueue) (s : DropStrategy) (p : Packet)
    (answer : Except Fault DropDecision) :
    (q.under s).settle p answer = ((q.settle p answer).1.under s, (q.settle p answer).2) := by
  cases answer with
  | ok decision =>
    have moved := q.asked.overflow_under s p decision
    simp only [settle]
    exact congrArg (fun x => (x.1, Except.ok x.2)) moved
  | error fault => rfl

/-- An offer rests on the strategy by one answer at most, and only if the queue is full. -/
theorem offer_under {q : PacketQueue} {s : DropStrategy} {p : Packet}
    (alike : q.capacity ≤ q.packets.length →
      s.onOverflow q.consultations q.view p = q.strategy.onOverflow q.consultations q.view p) :
    (q.under s).offer p = ((q.offer p).1.under s, (q.offer p).2) := by
  by_cases room : q.packets.length < q.capacity
  · have same : (q.under s).packets.length < (q.under s).capacity := room
    rw [offer_of_room room, offer_of_room same]
    rfl
  · have full : q.capacity ≤ q.packets.length := Nat.le_of_not_lt room
    have same : (q.under s).capacity ≤ (q.under s).packets.length := full
    have answer : (q.under s).strategy.onOverflow (q.under s).consultations (q.under s).view p =
      q.strategy.onOverflow q.consultations q.view p := alike full
    rw [offer_of_full full, offer_of_full same, answer, settle_under]

theorem overflow_consultations (q : PacketQueue) (p : Packet) (decision : DropDecision) :
    (q.overflow p decision).1.consultations = q.consultations := by
  cases decision <;> rfl

theorem offer_consultations (q : PacketQueue) (p : Packet) :
    (q.offer p).1.consultations =
      q.consultations + if q.packets.length < q.capacity then 0 else 1 := by
  by_cases room : q.packets.length < q.capacity
  · rw [offer_of_room room, if_pos room]
    rfl
  · rw [offer_of_full (Nat.le_of_not_lt room), if_neg room]
    cases q.strategy.onOverflow q.consultations q.view p with
    | ok decision => exact overflow_consultations _ p decision
    | error fault => rfl

/-! ## How full a queue gets -/

theorem overflow_length {q : PacketQueue} (occupied : q.packets ≠ []) (p : Packet)
    (decision : DropDecision) : (q.overflow p decision).1.packets.length = q.packets.length := by
  have resident := List.length_pos_iff.mpr occupied
  cases decision with
  | dropIncoming | rejectAndSignal => rfl
  | dropOldest | dropNewestQueued =>
    simp only [overflow, push_packets, List.length_append, List.length_tail, List.length_dropLast,
      List.length_singleton]
    omega

theorem overflow_highWater {q : PacketQueue} (occupied : q.packets ≠ [])
    (marked : q.packets.length ≤ q.highWater) (p : Packet) (decision : DropDecision) :
    (q.overflow p decision).1.highWater = q.highWater := by
  have length := overflow_length occupied p decision
  cases decision with
  | dropIncoming | rejectAndSignal => rfl
  | dropOldest | dropNewestQueued =>
    refine Nat.max_eq_left ?_
    rw [← length] at marked
    exact marked

/-- An offer to a full queue moves neither its occupancy nor its mark, though it may evict. -/
theorem offer_full_sizes {q : PacketQueue} (positive : 0 < q.capacity)
    (full : q.capacity ≤ q.packets.length) (marked : q.packets.length ≤ q.highWater) (p : Packet) :
    (q.offer p).1.packets.length = q.packets.length ∧ (q.offer p).1.highWater = q.highWater := by
  have occupied : q.asked.packets ≠ [] := List.length_pos_iff.mp (Nat.lt_of_lt_of_le positive full)
  rw [offer_of_full full]
  cases q.strategy.onOverflow q.consultations q.view p with
  | ok decision =>
    exact ⟨overflow_length occupied p decision, overflow_highWater occupied marked p decision⟩
  | error fault => exact ⟨rfl, rfl⟩

end PacketQueue

namespace MeteredQueue

/-- The residents are no more than the mark of the queue, which is no more than its capacity. Counters
that can count the slots have the same mark. -/
structure Sized (m : MeteredQueue) : Prop where
  positive : 0 < m.queue.capacity
  marked : m.queue.packets.length ≤ m.queue.highWater
  within : m.queue.highWater ≤ m.queue.capacity
  metered : m.queue.capacity < 2 ^ 64 → m.metrics.highWater.toNat = m.queue.highWater

theorem serve_tryEnqueue (m : MeteredQueue) (p : Packet) :
    (m.serve (.tryEnqueue p)).1 = (m.serve (.enqueue p)).1 := by
  simp only [serve, tryEnqueue_eq]

theorem metrics_enqueue (m : MeteredQueue) (p : Packet) :
    (m.serve (.enqueue p)).1.metrics =
      (m.metrics.updateAll (Offered.updatesHeld m.queue (m.queue.offer p).2)).updateAll
        (Offered.updatesReleased (m.queue.offer p).2) := rfl

/-- The mark among the counters is moved by a packet that finds room, and by nothing else. -/
theorem metrics_highWater_enqueue (m : MeteredQueue) (p : Packet) :
    (m.serve (.enqueue p)).1.metrics.highWater =
      if m.queue.packets.length < m.queue.capacity then
        max m.metrics.highWater (UInt64.ofNat (m.queue.packets.length + 1))
      else m.metrics.highWater := by
  rw [metrics_enqueue]
  by_cases room : m.queue.packets.length < m.queue.capacity
  · rw [if_pos room, PacketQueue.offer_of_room room]
    rfl
  · rw [if_neg room, PacketQueue.offer_of_full (Nat.le_of_not_lt room)]
    cases m.queue.strategy.onOverflow m.queue.consultations m.queue.view p with
    | ok decision => cases decision <;> rfl
    | error fault => rfl

theorem value_dequeues (metrics : Metrics) (packets : List Packet) {c : Counter}
    (other : c ≠ .dequeued) :
    c.value (metrics.updateAll (packets.map fun _ => .dequeued)) = c.value metrics := by
  refine Counter.value_updateAll_of_untouched metrics fun u member => ?_
  obtain ⟨_, _, rfl⟩ := List.mem_map.mp member
  exact other.symm

theorem metrics_dequeue (m : MeteredQueue) :
    m.dequeue.value.1.metrics =
      m.metrics.updateAll (m.dequeue.value.2.toList.map fun _ => .dequeued) := by
  cases found : m.queue.packets <;> simp [dequeue, PacketQueue.take, found, pure, Metrics.updateAll]

theorem value_of_no_offer (m : MeteredQueue) {request : QueueRequest} (none : request.packets = [])
    {c : Counter} (other : c ≠ .dequeued) :
    c.value (m.serve request).1.metrics = c.value m.metrics := by
  cases request with
  | enqueue p | tryEnqueue p => cases none
  | dequeue =>
    rw [show (m.serve .dequeue).1.metrics = _ from m.metrics_dequeue]
    exact value_dequeues m.metrics _ other
  | drain => exact value_dequeues m.metrics m.queue.packets other
  | setStrategy s => rfl

namespace Sized

variable {m : MeteredQueue}

theorem create {capacity : Nat} (positive : 0 < capacity) (strategy : DropStrategy) :
    Sized { queue := PacketQueue.create capacity strategy } :=
  ⟨positive, Nat.le_refl 0, Nat.zero_le _, fun _ => rfl⟩

theorem enqueue (h : m.Sized) (p : Packet) :
    (m.serve (.enqueue p)).1.Sized ∧ (m.serve (.enqueue p)).1.queue.highWater =
      max m.queue.highWater (m.serve (.enqueue p)).1.queue.packets.length := by
  have counted := m.metrics_highWater_enqueue p
  obtain ⟨positive, marked, within, metered⟩ := h
  have kept : (m.serve (.enqueue p)).1.queue.capacity = m.queue.capacity := m.serve_capacity _
  by_cases room : m.queue.packets.length < m.queue.capacity
  · have after : (m.serve (.enqueue p)).1.queue = m.queue.push p :=
      congrArg Prod.fst (PacketQueue.offer_of_room room p)
    have length : (m.queue.push p).packets.length = m.queue.packets.length + 1 :=
      List.length_append
    have mark : (m.queue.push p).highWater =
      max m.queue.highWater (m.queue.push p).packets.length := rfl
    rw [if_pos room] at counted
    refine ⟨⟨by rwa [kept], ?_, ?_, ?_⟩, ?_⟩
    · rw [after, mark]
      exact Nat.le_max_right _ _
    · rw [kept, after, mark, length]
      exact Nat.max_le.mpr ⟨within, room⟩
    · intro addressable
      rw [kept] at addressable
      have small : (UInt64.ofNat (m.queue.packets.length + 1)).toNat = m.queue.packets.length + 1 :=
        UInt64.toNat_ofNat_of_lt (Nat.lt_of_le_of_lt room addressable)
      rw [counted, after, mark, length, UInt64.toNat_max, metered addressable, small]
    · rw [after, mark]
  · obtain ⟨length, mark⟩ :=
      PacketQueue.offer_full_sizes positive (Nat.le_of_not_lt room) marked p
    rw [if_neg room] at counted
    have after : (m.serve (.enqueue p)).1.queue = (m.queue.offer p).1 := rfl
    refine ⟨⟨by rwa [kept], ?_, ?_, ?_⟩, ?_⟩
    · rwa [after, length, mark]
    · rwa [kept, after, mark]
    · rwa [counted, kept, after, mark]
    · rw [after, length, mark, Nat.max_eq_left marked]

theorem shrink {m' : MeteredQueue} (h : m.Sized) (capacity : m'.queue.capacity = m.queue.capacity)
    (mark : m'.queue.highWater = m.queue.highWater)
    (length : m'.queue.packets.length ≤ m.queue.packets.length)
    (counted : m'.metrics.highWater = m.metrics.highWater) :
    m'.Sized ∧ m'.queue.highWater = max m.queue.highWater m'.queue.packets.length := by
  have marked : m'.queue.packets.length ≤ m.queue.highWater := Nat.le_trans length h.marked
  refine ⟨⟨?_, ?_, ?_, ?_⟩, ?_⟩
  · rw [capacity]; exact h.positive
  · rw [mark]; exact marked
  · rw [mark, capacity]; exact h.within
  · rw [capacity, counted, mark]; exact h.metered
  · rw [mark, Nat.max_eq_left marked]

theorem step (h : m.Sized) (request : QueueRequest) :
    (m.serve request).1.Sized ∧ (m.serve request).1.queue.highWater =
      max m.queue.highWater (m.serve request).1.queue.packets.length := by
  have highWater : Counter.highWater ≠ .dequeued := by decide
  cases request with
  | enqueue p => exact h.enqueue p
  | tryEnqueue p =>
    rw [m.serve_tryEnqueue p]
    exact h.enqueue p
  | dequeue =>
    obtain ⟨left, _⟩ := m.dequeue_eq
    refine h.shrink (m.serve_capacity .dequeue) ?_ ?_ ?_
    · rw [show (m.serve .dequeue).1.queue = m.queue.take.1 from left]
      rfl
    · rw [show (m.serve .dequeue).1.queue = m.queue.take.1 from left, PacketQueue.take_packets,
        List.length_tail]
      omega
    · exact m.value_of_no_offer rfl highWater
  | drain => exact h.shrink rfl rfl (Nat.zero_le _) (m.value_of_no_offer rfl highWater)
  | setStrategy s => exact h.shrink rfl rfl (Nat.le_refl _) rfl

end Sized

theorem serveAll_concat (m : MeteredQueue) (requests : List QueueRequest) (last : QueueRequest) :
    (m.serveAll (requests ++ [last])).1 = ((m.serveAll requests).1.serve last).1 := by
  induction requests generalizing m with
  | nil => rfl
  | cons request rest ih =>
    rw [List.cons_append, serveAll, serveAll]
    exact ih (m.serve request).1

def occupancies (m : MeteredQueue) (requests : List QueueRequest) : Set Nat :=
  {n | ∃ earlier, earlier <+: requests ∧ n = (m.serveAll earlier).1.queue.packets.length}

theorem occupancies_concat (m : MeteredQueue) (requests : List QueueRequest) (last : QueueRequest) :
    m.occupancies (requests ++ [last]) =
      insert (m.serveAll (requests ++ [last])).1.queue.packets.length (m.occupancies requests) := by
  ext n
  constructor
  · rintro ⟨earlier, before, rfl⟩
    rcases List.prefix_concat_iff.mp before with rfl | before
    · exact .inl rfl
    · exact .inr ⟨earlier, before, rfl⟩
  · rintro (rfl | ⟨earlier, before, rfl⟩)
    · exact ⟨_, List.prefix_rfl, rfl⟩
    · exact ⟨earlier, before.trans (List.prefix_append _ _), rfl⟩

theorem Sized.run {m : MeteredQueue} (h : m.Sized) (start : m.queue.highWater = m.queue.packets.length)
    (requests : List QueueRequest) :
    (m.serveAll requests).1.Sized ∧
      IsGreatest (m.occupancies requests) (m.serveAll requests).1.queue.highWater := by
  -- the history grows at its end, where the mark takes up one more occupancy
  induction requests using List.reverseRecOn with
  | nil =>
    refine ⟨h, ⟨[], List.prefix_rfl, start⟩, ?_⟩
    rintro n ⟨earlier, before, rfl⟩
    rw [List.prefix_nil.mp before]
    exact start.ge
  | append_singleton requests last ih =>
    obtain ⟨sized, greatest⟩ := ih
    obtain ⟨sized', mark⟩ := sized.step last
    rw [occupancies_concat, serveAll_concat, mark, Nat.max_comm]
    exact ⟨sized', greatest.insert _⟩

end MeteredQueue

/-! ## What an operation asks -/

theorem add_length_le_of_rising {numbers : List Nat} (rising : numbers.Pairwise (· < ·))
    {first last : Nat} (head : numbers.head? = some first) (tail : numbers.getLast? = some last) :
    first + numbers.length ≤ last + 1 := by
  induction numbers generalizing first with
  | nil => cases head
  | cons n rest ih =>
    cases head
    cases rest with
    | nil =>
      cases tail
      exact Nat.le_refl _
    | cons next later =>
      obtain ⟨below, rising⟩ := List.pairwise_cons.mp rising
      have step : n < next := below next List.mem_cons_self
      have span := ih rising rfl (by rw [← tail, List.getLast?_cons_cons])
      rw [List.length_cons]
      omega

def QueueAnswer.fault? : QueueAnswer → Option Fault
  | .offered (.error fault) | .tried (.error fault) => some fault
  | _ => none

/-- How often the strategy in force after an operation was asked before it: one that is just set,
never. -/
def QueueRequest.earlierTurns (q : PacketQueue) : QueueRequest → Nat
  | .setStrategy _ => 0
  | _ => q.consultations

namespace MeteredQueue

def under (m : MeteredQueue) (s : DropStrategy) : MeteredQueue := { m with queue := m.queue.under s }

/-- An operation asks the strategy in force these questions and no others. They are counted, the
strategy matters by its answers to them alone, and to break over one of them is to break the
operation. -/
structure Consults (m : MeteredQueue) (request : QueueRequest) (questions : List Consultation) :
    Prop where
  counted : (m.serve request).1.queue.consultations =
    request.earlierTurns m.queue + questions.length
  confined : ∀ s : DropStrategy, (∀ c ∈ questions, s.answer c = m.queue.strategy.answer c) →
    ((m.under s).serve request).2 = (m.serve request).2 ∧
      ∀ s', ((m.under s).serve request).1.under s' = (m.serve request).1.under s'
  broken : ∀ c ∈ questions, ∀ (s : DropStrategy) (fault : Fault), s.answer c = .error fault →
    ((m.under s).serve request).2.fault? = some fault

section

variable {m : MeteredQueue} {s : DropStrategy} {p : Packet}

theorem enqueue_under (alike : m.queue.capacity ≤ m.queue.packets.length →
      s.onOverflow m.queue.consultations m.queue.view p =
        m.queue.strategy.onOverflow m.queue.consultations m.queue.view p) :
    ((m.under s).enqueue p).value = ((m.enqueue p).value.1.under s, (m.enqueue p).value.2) := by
  have moved : (m.under s).queue.offer p = _ := PacketQueue.offer_under alike
  simp only [enqueue, moved]
  rfl

theorem serve_under {request : QueueRequest} (alike : ∀ p ∈ request.packets,
      m.queue.capacity ≤ m.queue.packets.length →
        s.onOverflow m.queue.consultations m.queue.view p =
          m.queue.strategy.onOverflow m.queue.consultations m.queue.view p) :
    ((m.under s).serve request).2 = (m.serve request).2 ∧
      ∀ s', ((m.under s).serve request).1.under s' = (m.serve request).1.under s' := by
  cases request with
  | enqueue p =>
    have moved := enqueue_under (alike p List.mem_cons_self)
    simp only [serve, moved]
    exact ⟨trivial, fun _ => rfl⟩
  | tryEnqueue p =>
    have moved := enqueue_under (alike p List.mem_cons_self)
    simp only [serve, tryEnqueue_eq, moved]
    exact ⟨rfl, fun _ => rfl⟩
  | dequeue =>
    simp only [serve, dequeue, PacketQueue.take, under, PacketQueue.under]
    cases m.queue.packets with
    | nil => exact ⟨rfl, fun _ => rfl⟩
    | cons oldest rest => exact ⟨rfl, fun _ => rfl⟩
  | drain => exact ⟨rfl, fun _ => rfl⟩
  | setStrategy s => exact ⟨rfl, fun _ => rfl⟩

theorem serve_consultations (m : MeteredQueue) (request : QueueRequest) :
    (m.serve request).1.queue.consultations = request.earlierTurns m.queue +
      if m.queue.packets.length < m.queue.capacity then 0 else request.packets.length := by
  cases request with
  | enqueue p => exact m.queue.offer_consultations p
  | tryEnqueue p =>
    rw [m.serve_tryEnqueue p]
    exact m.queue.offer_consultations p
  | dequeue =>
    rw [show (m.serve .dequeue).1.queue = m.queue.take.1 from m.dequeue_eq.1]
    simp [QueueRequest.packets, QueueRequest.earlierTurns, PacketQueue.take]
  | drain => simp [serve, QueueRequest.packets, QueueRequest.earlierTurns, PacketQueue.takeAll]
  | setStrategy s =>
    simp [serve, QueueRequest.packets, QueueRequest.earlierTurns, PacketQueue.withStrategy]

theorem consults_of_room (room : m.queue.packets.length < m.queue.capacity)
    (request : QueueRequest) : m.Consults request [] where
  counted := by
    rw [serve_consultations, if_pos room]
    rfl
  confined s _ := serve_under fun p _ full => absurd room (Nat.not_lt.mpr full)
  broken _ member := absurd member List.not_mem_nil

theorem consults_of_full (full : m.queue.capacity ≤ m.queue.packets.length)
    (request : QueueRequest) :
    m.Consults request (request.packets.map (⟨m.queue.consultations, m.queue.view, ·⟩)) where
  counted := by rw [serve_consultations, if_neg (Nat.not_lt.mpr full), List.length_map]
  confined s alike := serve_under fun p offered _ => alike _ (List.mem_map.mpr ⟨p, offered, rfl⟩)
  broken := by
    intro c member s fault broke
    obtain ⟨p, offered, rfl⟩ := List.mem_map.mp member
    have outcome : ((m.under s).queue.offer p).2 = .error fault := by
      have same : (m.under s).queue.capacity ≤ (m.under s).queue.packets.length := full
      have answer : (m.under s).queue.strategy.onOverflow (m.under s).queue.consultations
        (m.under s).queue.view p = .error fault := broke
      rw [PacketQueue.offer_of_full same, answer]
      rfl
    cases request with
    | enqueue q =>
      cases List.mem_singleton.mp offered
      simp only [serve, enqueue_outcome, outcome, QueueAnswer.fault?]
    | tryEnqueue q =>
      cases List.mem_singleton.mp offered
      simp only [serve, tryEnqueue_eq, enqueue_outcome, outcome, QueueAnswer.fault?]
    | dequeue | drain | setStrategy s => exact absurd offered List.not_mem_nil

end

theorem residents_rising (start : MeteredQueue) (positive : 0 < start.queue.capacity)
    (empty : start.queue.packets = []) {requests : List QueueRequest} {next : QueueRequest}
    {p : Packet} (offered : p ∈ next.packets)
    (rising : (((requests ++ [next]).flatMap QueueRequest.packets).map
      Packet.sequence).Pairwise (· < ·)) :
    (((start.serveAll requests).1.queue.packets ++ [p]).map Packet.sequence).Pairwise (· < ·) := by
  obtain ⟨_, _, conserved⟩ := start.serveAll_conserves requests positive
  have ordered := conserved.ordered
  rw [empty, List.nil_append] at ordered
  have residents : (start.serveAll requests).1.queue.packets.Sublist _ :=
    (List.sublist_append_right _ _).trans ordered
  have both := residents.append (List.singleton_sublist.mpr offered)
  rw [List.flatMap_append, List.flatMap_singleton] at rising
  exact rising.sublist (both.map Packet.sequence)

/-- After any history a queue is no fuller than it can be, both its marks tell the most it has held,
and a new strategy changes nothing else. The strategy in force is asked by an offer that finds every
slot taken, once, and by nothing else; it is shown the capacity and the packets at both ends. If
packets come in rising order, the ends are below the packet that does not fit, and as far apart as
the residents between them need. -/
theorem occupancy_marked_and_shown (capacity : Nat) (positive : 0 < capacity)
    (addressable : capacity < 2 ^ 64) (strategy : DropStrategy) (requests : List QueueRequest) :
    let start : MeteredQueue := { queue := PacketQueue.create capacity strategy }
    let now := (start.serveAll requests).1
    now.queue.packets.length ≤ capacity ∧
      IsGreatest (start.occupancies requests) now.queue.highWater ∧
      now.metrics.highWater.toNat = now.queue.highWater ∧
      (∀ s, (now.serve (.setStrategy s)).1 =
        { now with queue := { now.queue with strategy := s, consultations := 0 } }) ∧
      ∀ next : QueueRequest,
        (now.queue.packets.length ≠ capacity → now.Consults next []) ∧
        (now.queue.packets.length = capacity → ∃ front back : Packet,
          now.queue.packets.head? = some front ∧ now.queue.packets.getLast? = some back ∧
          now.Consults next (next.packets.map fun p => {
            turn := now.queue.consultations
            view := ⟨capacity, capacity, some front.sequence, some back.sequence⟩
            incoming := p }) ∧
          ∀ p ∈ next.packets,
            (((requests ++ [next]).flatMap QueueRequest.packets).map
              Packet.sequence).Pairwise (· < ·) →
            front.sequence ≤ back.sequence ∧ back.sequence < p.sequence ∧
              capacity - 1 ≤ back.sequence - front.sequence) := by
  intro start now
  obtain ⟨sized, greatest⟩ := (Sized.create positive strategy).run rfl requests
  have kept : now.queue.capacity = capacity := start.serveAll_capacity requests
  have fits : now.queue.packets.length ≤ capacity := kept ▸ sized.marked.trans sized.within
  have metered := sized.metered (kept.trans_lt addressable)
  refine ⟨fits, greatest, metered, fun _ => rfl, fun next => ⟨fun room => ?_, fun full => ?_⟩⟩
  · exact consults_of_room (by omega) next
  · have occupied : now.queue.packets ≠ [] := List.length_pos_iff.mp (by omega)
    have front := List.head?_eq_some_head occupied
    have back := List.getLast?_eq_some_getLast occupied
    refine ⟨_, _, front, back, ?_, ?_⟩
    · have view : now.queue.view = ⟨capacity, capacity, some (now.queue.packets.head occupied).sequence,
          some (now.queue.packets.getLast occupied).sequence⟩ := by
        rw [PacketQueue.view, kept, full, front, back]
        rfl
      rw [← view]
      exact consults_of_full (by omega) next
    · intro p offered rising
      have rising := start.residents_rising positive rfl offered rising
      rw [List.map_append, List.pairwise_append] at rising
      obtain ⟨inside, _, below⟩ := rising
      have span : (now.queue.packets.head occupied).sequence +
          (now.queue.packets.map Packet.sequence).length ≤
            (now.queue.packets.getLast occupied).sequence + 1 :=
        add_length_le_of_rising inside (by rw [List.head?_map, front]; rfl)
          (by rw [List.getLast?_map, back]; rfl)
      have last := below _ (List.mem_map_of_mem (List.getLast_mem occupied)) _
        (List.mem_singleton_self p.sequence)
      rw [List.length_map, full] at span
      exact ⟨by omega, last, by omega⟩

/-- A queue of two slots that has evicted, handed out a packet and got a strategy that breaks. It broke
once already, and is asked for the second time by the next offer. -/
theorem occupancy_marked_and_shown_of_break :
    let breaks : DropStrategy := ⟨"breaks", fun _ _ _ => .error (.ofText "no")⟩
    let packet : Nat → Packet := fun n => { sequence := n, data := [] }
    let requests : List QueueRequest :=
      [.enqueue (packet 0), .enqueue (packet 1), .enqueue (packet 2), .dequeue, .setStrategy breaks,
        .tryEnqueue (packet 3), .enqueue (packet 4)]
    let start : MeteredQueue := { queue := PacketQueue.create 2 (.always .dropOldest) }
    let now := (start.serveAll requests).1
    let next : QueueRequest := .tryEnqueue (packet 5)
    0 < 2 ∧ 2 < 2 ^ 64 ∧ now.queue.packets = [packet 2, packet 3] ∧
      (((requests ++ [next]).flatMap QueueRequest.packets).map Packet.sequence).Pairwise (· < ·) ∧
      IsGreatest (start.occupancies requests) 2 ∧ now.metrics.highWater = 2 ∧
      now.queue.consultations = 1 ∧
      now.Consults next [⟨1, ⟨2, 2, some 2, some 3⟩, packet 5⟩] ∧
      (now.serve next).2.fault? = some (.ofText "no") := by
  intro breaks packet requests start now next
  have residents : now.queue.packets = [packet 2, packet 3] := by decide
  have turns : now.queue.consultations = 1 := by decide
  have metered : now.metrics.highWater = 2 := by decide
  have mark : now.queue.highWater = 2 := by decide
  have broke : (now.serve next).2.fault? = some (.ofText "no") := by decide
  have rising : (((requests ++ [next]).flatMap QueueRequest.packets).map
      Packet.sequence).Pairwise (· < ·) := by decide
  have law := occupancy_marked_and_shown 2 (by decide) (by decide) (.always .dropOldest) requests
  -- from here on the run is one opaque state
  obtain ⟨run, same⟩ : ∃ run, run = now := ⟨_, rfl⟩
  dsimp only at law
  rw [show (serveAll { queue := PacketQueue.create 2 (.always .dropOldest) } requests).1 = run from
    same.symm] at law
  rw [← same] at residents turns metered mark broke ⊢
  obtain ⟨_, greatest, _, _, asked⟩ := law
  obtain ⟨front, back, head, last, consults, _⟩ := (asked next).2 (by rw [residents]; rfl)
  rw [residents] at head last
  cases head
  cases last
  rw [turns] at consults
  rw [mark] at greatest
  exact ⟨by decide, by decide, residents, rising, greatest, metered, turns, consults, broke⟩

end MeteredQueue
end CaptureQueue
