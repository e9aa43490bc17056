import CaptureQueue.Proofs.Queue.Offer
import CaptureQueue.Queue.Metered
import Mathlib.Data.Multiset.AddSub

/-! Histories of one queue: what was asked of it, what it answered, and what became of every packet
that was offered. Packets leave in the order they came in, and the missing ones are those that the
answers name. -/

set_option autoImplicit false
namespace CaptureQueue

/-- One operation. A taker that waits is served when its wait ends, as one that does not wait. -/
inductive QueueRequest where
  | enqueue (p : Packet)
  | tryEnqueue (p : Packet)
  | dequeue
  | drain
  | setStrategy (s : DropStrategy)

inductive QueueAnswer where
  | offered (outcome : Except Fault Offered)
  | tried (outcome : Except Fault (Except CaptureError Offered))
  | taken (packet : Option Packet)
  | drained (packets : List Packet)
  | replaced

structure Exchange where
  request : QueueRequest
  answer : QueueAnswer

namespace QueueRequest

def packets : QueueRequest → List Packet
  | .enqueue p => [p]
  | .tryEnqueue p => [p]
  | _ => []

end QueueRequest

namespace Exchange

def handed (e : Exchange) : List Packet :=
  match e.answer with
  | .taken packet => packet.toList
  | .drained packets => packets
  | _ => []

def dropped (e : Exchange) : List Nat :=
  match e.answer with
  | .offered outcome => Offered.named outcome
  | .tried (.ok (.ok offered)) => Offered.named (.ok offered)
  | _ => []

def refused (e : Exchange) : List Packet :=
  match e.answer with
  | .offered outcome => Offered.returned outcome
  | .tried (.ok (.error _)) => e.request.packets
  | _ => []

def broken (e : Exchange) : List Packet :=
  match e.answer with
  | .offered (.error _) => e.request.packets
  | .tried (.error _) => e.request.packets
  | _ => []

/-- An exchange that reports a drop does nothing else to the packets. -/
theorem eq_singleton_of_mem_dropped {e : Exchange} {sequence : Nat}
    (reported : sequence ∈ e.dropped) :
    e.dropped = [sequence] ∧ e.handed = [] ∧ e.refused = [] ∧ e.broken = [] := by
  obtain ⟨request, answer⟩ := e
  have one : ∀ offered : Offered, sequence ∈ Offered.named (.ok offered) →
      Offered.named (.ok offered) = [sequence] ∧ Offered.returned (.ok offered) = [] := by
    intro offered member
    cases offered <;> simp_all [Offered.named, Offered.returned]
  cases answer with
  | offered outcome =>
    cases outcome with
    | error fault => simp [dropped, Offered.named] at reported
    | ok offered => exact ⟨(one offered reported).1, rfl, (one offered reported).2, rfl⟩
  | tried outcome =>
    cases outcome with
    | error fault => simp [dropped] at reported
    | ok answered =>
      cases answered with
      | error e => simp [dropped] at reported
      | ok offered => exact ⟨(one offered reported).1, rfl, rfl, rfl⟩
  | taken packet => simp [dropped] at reported
  | drained packets => simp [dropped] at reported
  | replaced => simp [dropped] at reported

end Exchange

namespace MeteredQueue

def serve (m : MeteredQueue) (request : QueueRequest) : MeteredQueue × QueueAnswer :=
  match request with
  | .enqueue p => ((m.enqueue p).value.1, .offered (m.enqueue p).value.2)
  | .tryEnqueue p => ((m.tryEnqueue p).value.1, .tried (m.tryEnqueue p).value.2)
  | .dequeue => (m.dequeue.value.1, .taken m.dequeue.value.2)
  | .drain => (m.drain.1, .drained m.drain.2)
  | .setStrategy s => ((m.setStrategy s).value, .replaced)

def serveAll (m : MeteredQueue) : List QueueRequest → MeteredQueue × List Exchange
  | [] => (m, [])
  | request :: rest =>
    let served := m.serve request
    let later := served.1.serveAll rest
    (later.1, ⟨request, served.2⟩ :: later.2)

/-! ## One operation -/

@[simp] theorem enqueue_queue (m : MeteredQueue) (p : Packet) :
    (m.enqueue p).value.1.queue = (m.queue.offer p).1 := rfl

@[simp] theorem enqueue_outcome (m : MeteredQueue) (p : Packet) :
    (m.enqueue p).value.2 = (m.queue.offer p).2 := rfl

-- Trying to offer does to the queue what offering does.
theorem tryEnqueue_eq (m : MeteredQueue) (p : Packet) :
    (m.tryEnqueue p).value = ((m.enqueue p).value.1, match (m.enqueue p).value.2 with
      | .ok (.rejected _) => .ok (.error (.queueFull m.queue.capacity))
      | .ok offered => .ok (.ok offered)
      | .error fault => .error fault) := by
  have same : (m.enqueue p).value.1.queue.capacity = m.queue.capacity := m.queue.offer_capacity p
  rw [← same]
  cases outcome : (m.queue.offer p).2 with
  | error fault => simp [tryEnqueue, bind, Traced.bind, outcome, pure]
  | ok offered => cases offered <;> simp [tryEnqueue, bind, Traced.bind, outcome, pure]

theorem dequeue_eq (m : MeteredQueue) :
    m.dequeue.value.1.queue = m.queue.take.1 ∧ m.dequeue.value.2 = m.queue.take.2 := by
  cases h : m.queue.packets <;> simp [dequeue, PacketQueue.take, h, pure]

@[simp] theorem drain_queue (m : MeteredQueue) : m.drain.1.queue = m.queue.takeAll.1 := rfl

@[simp] theorem setStrategy_queue (m : MeteredQueue) (s : DropStrategy) :
    (m.setStrategy s).value.queue = m.queue.withStrategy s := rfl

theorem serve_capacity (m : MeteredQueue) (request : QueueRequest) :
    (m.serve request).1.queue.capacity = m.queue.capacity := by
  cases request with
  | enqueue p => simp [serve]
  | tryEnqueue p => simp [serve, tryEnqueue_eq]
  | dequeue => simp [serve, m.dequeue_eq.1]
  | drain => simp [serve]
  | setStrategy s => simp [serve]

/-- Whatever is asked of a queue, the residents and the offered packets of before are those handed out
and the residents of after, in the same order, with the packets in between that the answer names. -/
theorem serve_conserves (m : MeteredQueue) (request : QueueRequest) (positive : 0 < m.queue.capacity) :
    ∃ discarded,
      discarded.map Packet.sequence = (Exchange.mk request (m.serve request).2).dropped ∧
      PacketQueue.Conserves (m.queue.packets ++ request.packets)
        ((Exchange.mk request (m.serve request).2).handed ++ (m.serve request).1.queue.packets)
        discarded (Exchange.mk request (m.serve request).2).refused
        (Exchange.mk request (m.serve request).2).broken := by
  cases request with
  | enqueue p =>
    obtain ⟨discarded, named, conserved⟩ := m.queue.offer_conserves p positive
    refine ⟨discarded, named, ?_⟩
    cases outcome : (m.queue.offer p).2 <;> simpa [serve, Exchange.handed, Exchange.refused,
      Exchange.broken, Offered.broken, QueueRequest.packets, outcome] using conserved
  | tryEnqueue p =>
    obtain ⟨discarded, named, conserved⟩ := m.queue.offer_conserves p positive
    refine ⟨discarded, ?_⟩
    simp only [serve, tryEnqueue_eq, enqueue_outcome, enqueue_queue]
    cases outcome : (m.queue.offer p).2 with
    | error fault =>
      rw [outcome] at named conserved
      exact ⟨named, conserved⟩
    | ok offered =>
      rw [outcome] at named conserved
      cases offered with
      | accepted => exact ⟨named, conserved⟩
      | dropped decision sequence => exact ⟨named, conserved⟩
      | rejected r =>
        cases PacketQueue.eq_of_offer_rejected outcome
        exact ⟨named, conserved⟩
  | dequeue =>
    obtain ⟨left, taken⟩ := m.dequeue_eq
    refine ⟨[], rfl, ?_⟩
    have same := m.queue.take_conserves
    simp only [serve, Exchange.handed, left, taken, same, QueueRequest.packets, List.append_nil]
    exact ⟨List.Sublist.refl _, by simp [Exchange.refused, Exchange.broken]⟩
  | drain =>
    refine ⟨[], rfl, ?_⟩
    constructor <;> simp [serve, drain, Exchange.handed, Exchange.refused, Exchange.broken,
      QueueRequest.packets, PacketQueue.takeAll]
  | setStrategy s =>
    refine ⟨[], rfl, ?_⟩
    constructor <;>
      simp [serve, Exchange.handed, Exchange.refused, Exchange.broken, QueueRequest.packets]

end MeteredQueue

/-! ## Whole histories -/

namespace PacketQueue

theorem Conserves.append {residents offered handed between later left after : List Packet}
    {discarded discarded' returned returned' broken broken' : List Packet}
    (first : Conserves (residents ++ offered) (handed ++ between) discarded returned broken)
    (rest : Conserves (between ++ later) (left ++ after) discarded' returned' broken') :
    Conserves (residents ++ (offered ++ later)) (handed ++ left ++ after)
      (discarded ++ discarded') (returned ++ returned') (broken ++ broken') where
  ordered := by
    have tail := rest.ordered.append_left handed
    have head := first.ordered.append_right later
    simp only [List.append_assoc] at tail head ⊢
    exact tail.trans head
  complete := by
    have head := first.complete
    have tail := rest.complete
    simp only [List.perm_iff_count, List.count_append] at head tail ⊢
    intro p
    have := head p
    have := tail p
    omega

end PacketQueue

namespace MeteredQueue

theorem serveAll_conserves (m : MeteredQueue) (requests : List QueueRequest)
    (positive : 0 < m.queue.capacity) :
    ∃ discarded, discarded.map Packet.sequence = (m.serveAll requests).2.flatMap Exchange.dropped ∧
      PacketQueue.Conserves (m.queue.packets ++ requests.flatMap QueueRequest.packets)
        ((m.serveAll requests).2.flatMap Exchange.handed ++ (m.serveAll requests).1.queue.packets)
        discarded ((m.serveAll requests).2.flatMap Exchange.refused)
        ((m.serveAll requests).2.flatMap Exchange.broken) := by
  -- each operation leaves the capacity as it is, so that the next one finds a slot again
  induction requests generalizing m with
  | nil => exact ⟨[], rfl, by constructor <;> simp [serveAll]⟩
  | cons request rest ih =>
    obtain ⟨discarded, named, first⟩ := m.serve_conserves request positive
    have kept : 0 < (m.serve request).1.queue.capacity := by rwa [m.serve_capacity request]
    obtain ⟨later, namedLater, tail⟩ := ih (m.serve request).1 kept
    exact ⟨discarded ++ later, by simp [serveAll, named, namedLater], first.append tail⟩

theorem serveAll_capacity (m : MeteredQueue) (requests : List QueueRequest) :
    (m.serveAll requests).1.queue.capacity = m.queue.capacity := by
  induction requests generalizing m with
  | nil => rfl
  | cons request rest ih => rw [serveAll, ih, serve_capacity]

theorem serve_dropped {m : MeteredQueue} {request : QueueRequest} (positive : 0 < m.queue.capacity)
    {sequence : Nat} (reported : sequence ∈ (Exchange.mk request (m.serve request).2).dropped) :
    ∃ victim, victim.sequence = sequence ∧
      (m.queue.packets ++ request.packets).Perm (victim :: (m.serve request).1.queue.packets) := by
  obtain ⟨discarded, named, conserved⟩ := m.serve_conserves request positive
  obtain ⟨one, handed, refused, broken⟩ := Exchange.eq_singleton_of_mem_dropped reported
  rw [one] at named
  obtain ⟨victim, rfl, same⟩ := List.map_eq_singleton_iff.mp named
  refine ⟨victim, same, ?_⟩
  have complete := conserved.complete
  rw [handed, refused, broken] at complete
  exact complete.trans (List.perm_append_singleton victim _)

/-- What was handed out and what is still there, oldest first, is what was offered, in order and
without the packets that the answers name: drops by sequence number, refusals, and packets that the
strategy broke over. Each reported drop is the loss of the packet it names. -/
theorem packets_leave_in_order (capacity : Nat) (positive : 0 < capacity) (strategy : DropStrategy)
    (requests : List QueueRequest) (distinct : (requests.flatMap QueueRequest.packets).Nodup) :
    let start : MeteredQueue := { queue := PacketQueue.create capacity strategy }
    let offered := requests.flatMap QueueRequest.packets
    let exchanges := (start.serveAll requests).2
    let kept := exchanges.flatMap Exchange.handed ++ (start.serveAll requests).1.queue.packets
    kept.Sublist offered ∧ kept.Nodup ∧
      (∃ discarded, discarded.map Packet.sequence = exchanges.flatMap Exchange.dropped ∧
        (offered : Multiset Packet) - kept =
          ↑(discarded ++ exchanges.flatMap Exchange.refused ++ exchanges.flatMap Exchange.broken)) ∧
      (∀ earlier request later, requests = earlier ++ request :: later →
        let before := (start.serveAll earlier).1
        ∀ sequence ∈ (Exchange.mk request (before.serve request).2).dropped,
          ∃ victim, victim.sequence = sequence ∧
            (before.queue.packets ++ request.packets).Perm
              (victim :: (before.serve request).1.queue.packets)) ∧
      ((offered.map Packet.sequence).Pairwise (· < ·) →
        (kept.map Packet.sequence).Pairwise (· < ·)) := by
  intro start offered exchanges kept
  obtain ⟨discarded, named, conserved⟩ := start.serveAll_conserves requests positive
  have ordered : kept.Sublist offered := conserved.ordered
  refine ⟨ordered, distinct.sublist ordered, ⟨discarded, named, ?_⟩, ?_, ?_⟩
  · have complete : offered.Perm (kept ++ _) := conserved.complete
    rw [Multiset.coe_eq_coe.mpr complete, ← Multiset.coe_add, Multiset.add_comm,
      Multiset.add_sub_cancel_right]
  · intro earlier request later _ before sequence reported
    have kept : before.queue.capacity = capacity := start.serveAll_capacity earlier
    exact serve_dropped (kept ▸ positive) reported
  · intro increasing
    exact increasing.sublist (ordered.map Packet.sequence)

/-- Six packets at a queue of two slots: one is dropped, one broken over and one refused. -/
theorem packets_leave_in_order_of_six :
    let breaks : DropStrategy := ⟨"breaks", fun _ _ _ => .error (.ofText "no")⟩
    let packet : Nat → Packet := fun n => { sequence := n, data := [] }
    let requests : List QueueRequest :=
      [.enqueue (packet 0), .enqueue (packet 1), .enqueue (packet 2), .setStrategy breaks,
        .enqueue (packet 3), .setStrategy (.always .rejectAndSignal), .tryEnqueue (packet 4),
        .dequeue, .enqueue (packet 5), .drain]
    let start : MeteredQueue := { queue := PacketQueue.create 2 (.always .dropOldest) }
    let kept := (start.serveAll requests).2.flatMap Exchange.handed ++
      (start.serveAll requests).1.queue.packets
    0 < 2 ∧ (requests.flatMap QueueRequest.packets).Nodup ∧
      kept = [packet 1, packet 2, packet 5] ∧
      (start.serveAll requests).2.flatMap Exchange.dropped = [0] ∧
      (start.serveAll requests).2.flatMap Exchange.broken = [packet 3] ∧
      (start.serveAll requests).2.flatMap Exchange.refused = [packet 4] ∧
      kept.Sublist (requests.flatMap QueueRequest.packets) ∧ kept.Nodup := by
  intro breaks packet requests start kept
  have distinct : (requests.flatMap QueueRequest.packets).Nodup := by decide
  have law := packets_leave_in_order 2 (by decide) (.always .dropOldest) requests distinct
  exact ⟨by decide, distinct, by decide, by decide, by decide, by decide, law.1, law.2.1⟩

end MeteredQueue
end CaptureQueue
