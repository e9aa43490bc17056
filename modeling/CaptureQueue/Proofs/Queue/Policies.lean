import CaptureQueue.Proofs.Queue.Occupancy

/-! What each of the four fixed policies preserves. Evicting the oldest keeps the most recent packets;
policies that evict nothing keep every packet once taken in; evicting the newest touches the last slot
only, so that of many offers the first ones stay and the very last. -/

set_option autoImplicit false
namespace CaptureQueue

namespace QueueRequest

def leavesStrategy : QueueRequest → Bool
  | .setStrategy _ => false
  | _ => true

theorem packets_cases (request : QueueRequest) :
    request.packets = [] ∨ ∃ p, request.packets = [p] := by
  cases request with
  | enqueue p | tryEnqueue p => exact .inr ⟨p, rfl⟩
  | dequeue | drain | setStrategy s => exact .inl rfl

end QueueRequest

namespace Offered

def takenIn (p : Packet) : Except Fault Offered → List Packet
  | .ok .accepted => [p]
  | _ => []

end Offered

namespace Exchange

def accepted (e : Exchange) : List Packet :=
  match e.answer with
  | .offered (.ok .accepted) | .tried (.ok (.ok .accepted)) => e.request.packets
  | _ => []

end Exchange

/-! ## One offer -/

namespace PacketQueue

variable {q : PacketQueue} {policy : DropDecision}

theorem offer_of_policy (fixed : q.strategy = .always policy) (full : q.capacity ≤ q.packets.length)
    (p : Packet) :
    q.offer p = ((q.asked.overflow p policy).1, .ok (q.asked.overflow p policy).2) := by
  rw [offer_of_full full, fixed]
  rfl

theorem offer_dropOldest (fixed : q.strategy = .always .dropOldest) (p : Packet) :
    ∃ kept, kept <:+ q.packets ∧ (q.offer p).1.packets = kept ++ [p] := by
  by_cases room : q.packets.length < q.capacity
  · rw [offer_of_room room]
    exact ⟨q.packets, List.suffix_rfl, rfl⟩
  · rw [offer_of_policy fixed (Nat.le_of_not_lt room)]
    exact ⟨q.packets.tail, List.tail_suffix q.packets, rfl⟩

theorem offer_keeps (evictsNothing : policy ∈ [DropDecision.dropIncoming, .rejectAndSignal])
    (fixed : q.strategy = .always policy) (p : Packet) :
    (q.offer p).1.packets = q.packets ++ Offered.takenIn p (q.offer p).2 := by
  by_cases room : q.packets.length < q.capacity
  · rw [offer_of_room room]
    rfl
  · rw [offer_of_policy fixed (Nat.le_of_not_lt room)]
    simp only [List.mem_cons, List.not_mem_nil, or_false] at evictsNothing
    obtain rfl | rfl := evictsNothing <;> exact (List.append_nil _).symm

theorem offer_dropNewestQueued (fixed : q.strategy = .always .dropNewestQueued) (p : Packet) :
    (q.offer p).1.packets =
      (if q.packets.length < q.capacity then q.packets else q.packets.dropLast) ++ [p] := by
  by_cases room : q.packets.length < q.capacity
  · rw [offer_of_room room, if_pos room]
    rfl
  · rw [offer_of_policy fixed (Nat.le_of_not_lt room), if_neg room]
    rfl

end PacketQueue

/-! ## One operation -/

namespace MeteredQueue

variable {m : MeteredQueue} {policy : DropDecision} {request : QueueRequest}

theorem serve_strategy (m : MeteredQueue) (leaves : request.leavesStrategy = true) :
    (m.serve request).1.queue.strategy = m.queue.strategy := by
  cases request with
  | enqueue p => exact m.queue.offer_strategy p
  | tryEnqueue p =>
    rw [m.serve_tryEnqueue p]
    exact m.queue.offer_strategy p
  | dequeue =>
    rw [show (m.serve .dequeue).1.queue = m.queue.take.1 from m.dequeue_eq.1]
    rfl
  | drain => rfl
  | setStrategy s => cases leaves

theorem serve_offer {p : Packet} (offered : request.packets = [p]) :
    (m.serve request).1 = (m.serve (.enqueue p)).1 := by
  cases request with
  | enqueue q =>
    cases offered
    rfl
  | tryEnqueue q =>
    cases offered
    exact m.serve_tryEnqueue _
  | dequeue | drain | setStrategy s => cases offered

/-- An operation that offers nothing hands out from the front and discards nothing. -/
theorem serve_of_no_offer (none : request.packets = []) :
    (Exchange.mk request (m.serve request).2).handed ++ (m.serve request).1.queue.packets =
        m.queue.packets ∧
      (Exchange.mk request (m.serve request).2).dropped = [] ∧
      (Exchange.mk request (m.serve request).2).accepted = [] := by
  cases request with
  | enqueue p | tryEnqueue p => cases none
  | dequeue =>
    obtain ⟨left, taken⟩ := m.dequeue_eq
    refine ⟨?_, rfl, rfl⟩
    have same := m.queue.take_conserves
    simp only [serve, Exchange.handed, left, taken]
    exact same
  | drain => exact ⟨List.append_nil _, rfl, rfl⟩
  | setStrategy s => exact ⟨rfl, rfl, rfl⟩

theorem serve_offer_answer {p : Packet} (offered : request.packets = [p]) :
    (Exchange.mk request (m.serve request).2).handed = [] ∧
      (Exchange.mk request (m.serve request).2).dropped = Offered.named (m.queue.offer p).2 ∧
      (Exchange.mk request (m.serve request).2).accepted = Offered.takenIn p (m.queue.offer p).2 := by
  cases request with
  | enqueue q =>
    cases offered
    refine ⟨rfl, rfl, ?_⟩
    simp only [serve, Exchange.accepted, enqueue_outcome, QueueRequest.packets]
    cases (m.queue.offer p).2 with
    | error fault => rfl
    | ok outcome => cases outcome <;> rfl
  | tryEnqueue q =>
    cases offered
    simp only [serve, tryEnqueue_eq, enqueue_outcome, Exchange.handed, Exchange.dropped,
      Exchange.accepted, QueueRequest.packets]
    cases (m.queue.offer p).2 with
    | error fault => exact ⟨trivial, rfl, rfl⟩
    | ok outcome => cases outcome <;> exact ⟨trivial, rfl, rfl⟩
  | dequeue | drain | setStrategy s => cases offered

/-- Under a policy that evicts the oldest, an operation keeps an end of the residents and puts what is
offered behind it. -/
theorem serve_dropOldest (fixed : m.queue.strategy = .always .dropOldest) (request : QueueRequest) :
    ∃ kept, kept <:+ m.queue.packets ∧
      (m.serve request).1.queue.packets = kept ++ request.packets := by
  rcases request.packets_cases with none | ⟨p, offered⟩
  · rw [none]
    exact ⟨_, ⟨_, (serve_of_no_offer none).1⟩, (List.append_nil _).symm⟩
  · rw [serve_offer offered, offered]
    exact PacketQueue.offer_dropOldest fixed p

theorem serve_keeps (evictsNothing : policy ∈ [DropDecision.dropIncoming, .rejectAndSignal])
    (fixed : m.queue.strategy = .always policy) (request : QueueRequest) :
    (Exchange.mk request (m.serve request).2).handed ++ (m.serve request).1.queue.packets =
      m.queue.packets ++ (Exchange.mk request (m.serve request).2).accepted := by
  rcases request.packets_cases with none | ⟨p, offered⟩
  · obtain ⟨same, _, accepted⟩ := m.serve_of_no_offer none
    rw [same, accepted, List.append_nil]
  · obtain ⟨handed, _, accepted⟩ := m.serve_offer_answer offered
    rw [handed, accepted, serve_offer offered]
    exact PacketQueue.offer_keeps evictsNothing fixed p

theorem serve_rejectAndSignal_dropped (fixed : m.queue.strategy = .always .rejectAndSignal)
    (request : QueueRequest) : (m.serve request).1.metrics.dropped = m.metrics.dropped := by
  rcases request.packets_cases with none | ⟨p, offered⟩
  · exact m.value_of_no_offer none (by decide : Counter.dropped ≠ .dequeued)
  · rw [serve_offer offered, metrics_enqueue]
    by_cases room : m.queue.packets.length < m.queue.capacity
    · rw [PacketQueue.offer_of_room room]
      rfl
    · rw [PacketQueue.offer_of_policy fixed (Nat.le_of_not_lt room)]
      rfl

/-- Under a policy that evicts the newest, an operation discards nothing, or puts the packet offered to
a full queue into the last slot, whose packet it discards. -/
theorem serve_dropNewestQueued (fixed : m.queue.strategy = .always .dropNewestQueued)
    (positive : 0 < m.queue.capacity) (fits : m.queue.packets.length ≤ m.queue.capacity)
    (request : QueueRequest) :
    let e := Exchange.mk request (m.serve request).2
    let after := (m.serve request).1.queue.packets
    (e.dropped = [] ∧ e.handed ++ after = m.queue.packets ++ request.packets) ∨
      ∃ front victim p, request.packets = [p] ∧ m.queue.packets = front ++ [victim] ∧
        front.length = m.queue.capacity - 1 ∧ after = front ++ [p] ∧
        e.dropped = [victim.sequence] ∧ e.handed = [] := by
  rcases request.packets_cases with none | ⟨p, offered⟩
  · obtain ⟨same, dropped, _⟩ := m.serve_of_no_offer none
    exact .inl ⟨dropped, by rw [same, none, List.append_nil]⟩
  · obtain ⟨handed, dropped, _⟩ := m.serve_offer_answer offered
    by_cases room : m.queue.packets.length < m.queue.capacity
    · refine .inl ⟨?_, ?_⟩
      · rw [dropped, PacketQueue.offer_of_room room]
        rfl
      · rw [handed, offered, serve_offer offered]
        exact congrArg (·.1.packets) (PacketQueue.offer_of_room room p)
    · have full : m.queue.capacity ≤ m.queue.packets.length := Nat.le_of_not_lt room
      have occupied : m.queue.packets ≠ [] := List.length_pos_iff.mp (by omega)
      have newest := List.getLast?_eq_some_getLast occupied
      refine .inr ⟨m.queue.packets.dropLast, m.queue.packets.getLast occupied, p, offered,
        (List.dropLast_concat_getLast occupied).symm, ?_, ?_, ?_, handed⟩
      · rw [List.length_dropLast]
        omega
      · rw [serve_offer offered]
        exact (PacketQueue.offer_dropNewestQueued fixed p).trans (by rw [if_neg room])
      · rw [dropped, PacketQueue.offer_of_policy fixed full]
        simp only [PacketQueue.overflow, PacketQueue.asked, newest, Offered.named]
        rfl

end MeteredQueue

/-! ## Whole histories -/

namespace MeteredQueue

variable {m : MeteredQueue} {policy : DropDecision} {requests : List QueueRequest}

theorem serveAll_strategy (m : MeteredQueue)
    (leaves : ∀ request ∈ requests, request.leavesStrategy = true) :
    (m.serveAll requests).1.queue.strategy = m.queue.strategy := by
  induction requests generalizing m with
  | nil => rfl
  | cons request rest ih =>
    obtain ⟨first, later⟩ := List.forall_mem_cons.mp leaves
    rw [serveAll, ih _ later, serve_strategy m first]

theorem serveAll_dropOldest (fixed : m.queue.strategy = .always .dropOldest)
    (leaves : ∀ request ∈ requests, request.leavesStrategy = true) :
    (m.serveAll requests).1.queue.packets <:+
      m.queue.packets ++ requests.flatMap QueueRequest.packets := by
  induction requests generalizing m with
  | nil => exact ⟨[], (List.append_nil _).symm⟩
  | cons request rest ih =>
    obtain ⟨first, later⟩ := List.forall_mem_cons.mp leaves
    obtain ⟨kept, ⟨gone, same⟩, after⟩ := serve_dropOldest fixed request
    obtain ⟨left, last⟩ := ih ((serve_strategy m first).trans fixed) later
    refine ⟨gone ++ left, ?_⟩
    rw [List.append_assoc, serveAll, last, after, ← same, List.flatMap_cons]
    simp only [List.append_assoc]

theorem serveAll_keeps (evictsNothing : policy ∈ [DropDecision.dropIncoming, .rejectAndSignal])
    (fixed : m.queue.strategy = .always policy)
    (leaves : ∀ request ∈ requests, request.leavesStrategy = true) :
    (m.serveAll requests).2.flatMap Exchange.handed ++ (m.serveAll requests).1.queue.packets =
      m.queue.packets ++ (m.serveAll requests).2.flatMap Exchange.accepted := by
  induction requests generalizing m with
  | nil => exact (List.append_nil _).symm
  | cons request rest ih =>
    obtain ⟨first, later⟩ := List.forall_mem_cons.mp leaves
    have step := serve_keeps evictsNothing fixed request
    have run := ih ((serve_strategy m first).trans fixed) later
    rw [serveAll, List.flatMap_cons, List.flatMap_cons, List.append_assoc, run, ← List.append_assoc,
      step, List.append_assoc]

theorem serveAll_rejectAndSignal_dropped (fixed : m.queue.strategy = .always .rejectAndSignal)
    (leaves : ∀ request ∈ requests, request.leavesStrategy = true) :
    (m.serveAll requests).1.metrics.dropped = m.metrics.dropped := by
  induction requests generalizing m with
  | nil => rfl
  | cons request rest ih =>
    obtain ⟨first, later⟩ := List.forall_mem_cons.mp leaves
    rw [serveAll, ih ((serve_strategy m first).trans fixed) later,
      serve_rejectAndSignal_dropped fixed request]

end MeteredQueue

/-- The first of a list, and of what is past them the last. -/
def frontAndLast {α : Type} (n : Nat) (xs : List α) : List α :=
  xs.take n ++ xs.drop (max n (xs.length - 1))

section

variable {α : Type} {n : Nat} {xs : List α}

theorem frontAndLast_of_short (short : xs.length ≤ n) : frontAndLast n xs = xs := by
  rw [frontAndLast, List.take_of_length_le short, List.drop_of_length_le (by omega), List.append_nil]

theorem frontAndLast_of_long (long : n < xs.length) :
    frontAndLast n xs = xs.take n ++ xs.drop (xs.length - 1) := by
  rw [frontAndLast, Nat.max_eq_right (by omega)]

theorem frontAndLast_concat (n : Nat) (xs : List α) (x : α) : frontAndLast n (xs ++ [x]) =
    (if (frontAndLast n xs).length < n + 1 then frontAndLast n xs
      else (frontAndLast n xs).dropLast) ++ [x] := by
  by_cases short : xs.length ≤ n
  · rw [frontAndLast_of_short short, if_pos (by omega), frontAndLast, List.length_append,
      Nat.max_eq_left (by simpa using short), List.take_append_drop]
  · have long : n < xs.length := Nat.lt_of_not_le short
    have last : (xs.drop (xs.length - 1)).length = 1 := by
      rw [List.length_drop]
      omega
    obtain ⟨y, one⟩ := List.length_eq_one_iff.mp last
    have kept : frontAndLast n xs = xs.take n ++ [y] := by rw [frontAndLast_of_long long, one]
    have full : ¬ (frontAndLast n xs).length < n + 1 := by
      rw [kept, List.length_append, List.length_take, List.length_singleton]
      omega
    rw [if_neg full, kept, List.dropLast_concat, frontAndLast_of_long (by simp; omega),
      List.take_append_of_le_length (by omega)]
    congr 1
    rw [List.length_append, List.length_singleton, Nat.add_sub_cancel, List.drop_left]

end

namespace MeteredQueue

/-- Of offers alone, a queue that evicts the newest keeps the first ones and the very last. -/
theorem serveAll_dropNewestQueued {m : MeteredQueue}
    (fixed : m.queue.strategy = .always .dropNewestQueued) (positive : 0 < m.queue.capacity)
    (empty : m.queue.packets = []) {requests : List QueueRequest}
    (offers : ∀ request ∈ requests, request.packets ≠ []) :
    (m.serveAll requests).1.queue.packets =
      frontAndLast (m.queue.capacity - 1) (requests.flatMap QueueRequest.packets) := by
  -- by the last offer, which meets what the others left
  induction requests using List.reverseRecOn with
  | nil => exact empty.trans (frontAndLast_of_short (Nat.zero_le _)).symm
  | append_singleton requests last ih =>
    have before : ∀ request ∈ requests, request.packets ≠ [] :=
      fun request member => offers request (List.mem_append_left _ member)
    have leaves : ∀ request ∈ requests, request.leavesStrategy = true := by
      intro request member
      cases request with
      | setStrategy s => exact absurd rfl (before _ member)
      | _ => rfl
    obtain none | ⟨p, offered⟩ := last.packets_cases
    · exact absurd none (offers last (List.mem_append_right _ (List.mem_singleton_self last)))
    · have kept := (m.serveAll_strategy leaves).trans fixed
      have capacity := m.serveAll_capacity requests
      have slots : m.queue.capacity - 1 + 1 = m.queue.capacity := Nat.sub_add_cancel positive
      have next := PacketQueue.offer_dropNewestQueued kept p
      rw [serveAll_concat, serve_offer offered, List.flatMap_append, List.flatMap_singleton, offered,
        frontAndLast_concat, ← ih before, slots, ← capacity]
      exact next

/-- What is resident after any operations of a queue with a fixed policy. If the oldest is evicted,
those are the most recent packets, and an offered packet is at the back at once. If nothing is evicted,
they are what was accepted and not handed out, and refusals are no drops. If the newest is evicted, a
full queue parts with its last packet alone, and offers without takers leave the first ones and the
very last. -/
theorem policies_preserve (capacity : Nat) (positive : 0 < capacity) (requests : List QueueRequest)
    (leaves : ∀ request ∈ requests, request.leavesStrategy = true) :
    let start (policy : DropDecision) : MeteredQueue :=
      { queue := PacketQueue.create capacity (.always policy) }
    let now (policy : DropDecision) : MeteredQueue := ((start policy).serveAll requests).1
    let exchanges (policy : DropDecision) : List Exchange := ((start policy).serveAll requests).2
    let residents (policy : DropDecision) : List Packet := (now policy).queue.packets
    let offered := requests.flatMap QueueRequest.packets
    (residents .dropOldest <:+ offered ∧
      ∀ next : QueueRequest, ∀ p ∈ next.packets,
        ((now .dropOldest).serve next).1.queue.packets.getLast? = some p) ∧
    (∀ policy ∈ [DropDecision.dropIncoming, .rejectAndSignal],
      (exchanges policy).flatMap Exchange.handed ++ residents policy =
        (exchanges policy).flatMap Exchange.accepted) ∧
    (now .rejectAndSignal).metrics.dropped = 0 ∧
    (∀ next : QueueRequest,
      let e := Exchange.mk next ((now .dropNewestQueued).serve next).2
      let after := ((now .dropNewestQueued).serve next).1.queue.packets
      (e.dropped = [] ∧ e.handed ++ after = residents .dropNewestQueued ++ next.packets) ∨
        ∃ front victim p, next.packets = [p] ∧ residents .dropNewestQueued = front ++ [victim] ∧
          front.length = capacity - 1 ∧ after = front ++ [p] ∧ e.dropped = [victim.sequence] ∧
          e.handed = []) ∧
    ((∀ request ∈ requests, request.packets ≠ []) → capacity ≤ offered.length →
      residents .dropNewestQueued =
        offered.take (capacity - 1) ++ offered.drop (offered.length - 1)) := by
  intro start now exchanges residents offered
  have fixed (policy : DropDecision) : (now policy).queue.strategy = .always policy :=
    (start policy).serveAll_strategy leaves
  have slots (policy : DropDecision) : (now policy).queue.capacity = capacity :=
    (start policy).serveAll_capacity requests
  have fits (policy : DropDecision) : (now policy).queue.packets.length ≤ capacity := by
    obtain ⟨sized, _⟩ := (Sized.create positive (.always policy)).run rfl requests
    exact (slots policy) ▸ sized.marked.trans sized.within
  refine ⟨⟨?_, ?_⟩, ?_, ?_, ?_, ?_⟩
  · exact serveAll_dropOldest rfl leaves
  · intro next p member
    obtain ⟨kept, _, after⟩ := serve_dropOldest (fixed .dropOldest) next
    obtain none | ⟨q, one⟩ := next.packets_cases
    · rw [none] at member
      cases member
    · rw [one] at member
      cases List.mem_singleton.mp member
      rw [after, one, List.getLast?_concat]
  · intro policy evictsNothing
    exact serveAll_keeps evictsNothing rfl leaves
  · exact serveAll_rejectAndSignal_dropped rfl leaves
  · intro next
    have step := serve_dropNewestQueued (fixed .dropNewestQueued) (by rwa [slots])
      (by rw [slots]; exact fits .dropNewestQueued) next
    rw [slots] at step
    exact step
  · intro offers many
    refine (serveAll_dropNewestQueued rfl positive rfl offers).trans (frontAndLast_of_long ?_)
    exact Nat.lt_of_lt_of_le (Nat.sub_lt positive Nat.zero_lt_one) many

theorem policies_preserve_of_five :
    let packet : Nat → Packet := fun n => { sequence := n, data := [] }
    let offers : List QueueRequest := [.enqueue (packet 0), .enqueue (packet 1),
      .tryEnqueue (packet 2), .enqueue (packet 3), .tryEnqueue (packet 4)]
    let run (policy : DropDecision) : MeteredQueue × List Exchange :=
      serveAll { queue := PacketQueue.create 3 (.always policy) } offers
    0 < 3 ∧ (∀ request ∈ offers, request.leavesStrategy = true) ∧
      (∀ request ∈ offers, request.packets ≠ []) ∧
      3 ≤ (offers.flatMap QueueRequest.packets).length ∧
      (run .dropOldest).1.queue.packets = [packet 2, packet 3, packet 4] ∧
      (run .dropOldest).1.queue.packets <:+ offers.flatMap QueueRequest.packets ∧
      (run .rejectAndSignal).2.flatMap Exchange.accepted = [packet 0, packet 1, packet 2] ∧
      (run .rejectAndSignal).1.metrics.dropped = 0 ∧
      (run .dropNewestQueued).1.queue.packets = [packet 0, packet 1, packet 4] := by
  intro packet offers run
  have leaves : ∀ request ∈ offers, request.leavesStrategy = true := by decide
  have offering : ∀ request ∈ offers, request.packets ≠ [] := by decide
  have many : 3 ≤ (offers.flatMap QueueRequest.packets).length := by decide
  have newest : (run .dropOldest).1.queue.packets = [packet 2, packet 3, packet 4] := by decide
  have admitted : (run .rejectAndSignal).2.flatMap Exchange.accepted =
    [packet 0, packet 1, packet 2] := by decide
  have law := policies_preserve 3 (by decide) offers leaves
  dsimp only at law
  obtain ⟨⟨recent, _⟩, _, undropped, _, first⟩ := law
  refine ⟨by decide, leaves, offering, many, newest, ?_, admitted, ?_, ?_⟩
  · dsimp only [run]
    exact recent
  · dsimp only [run]
    exact undropped
  · dsimp only [run]
    exact first offering many

end MeteredQueue
end CaptureQueue
