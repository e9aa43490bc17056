import CaptureQueue.Queue.Basic

/-! What one offer does to a queue that has a slot at all. Whatever the strategy decides, one packet
at most leaves, the order of the others stays, and the outcome names the one that left. -/

set_option autoImplicit false
namespace CaptureQueue

namespace Offered

/-- The sequence number that a drop is reported under. -/
def named : Except Fault Offered → List Nat
  | .ok (.dropped _ sequence) => [sequence]
  | _ => []

def returned : Except Fault Offered → List Packet
  | .ok (.rejected packet) => [packet]
  | _ => []

def broken (p : Packet) : Except Fault Offered → List Packet
  | .error _ => [p]
  | .ok _ => []

end Offered

namespace PacketQueue

@[simp] theorem push_packets (q : PacketQueue) (p : Packet) :
    (q.push p).packets = q.packets ++ [p] := rfl

@[simp] theorem push_capacity (q : PacketQueue) (p : Packet) : (q.push p).capacity = q.capacity := rfl

@[simp] theorem take_packets (q : PacketQueue) : q.take.1.packets = q.packets.tail := rfl

@[simp] theorem take_capacity (q : PacketQueue) : q.take.1.capacity = q.capacity := rfl

@[simp] theorem takeAll_packets (q : PacketQueue) : q.takeAll.1.packets = [] := rfl

@[simp] theorem takeAll_capacity (q : PacketQueue) : q.takeAll.1.capacity = q.capacity := rfl

@[simp] theorem withStrategy_packets (q : PacketQueue) (s : DropStrategy) :
    (q.withStrategy s).packets = q.packets := rfl

@[simp] theorem withStrategy_capacity (q : PacketQueue) (s : DropStrategy) :
    (q.withStrategy s).capacity = q.capacity := rfl

theorem take_conserves (q : PacketQueue) : q.take.2.toList ++ q.take.1.packets = q.packets := by
  cases h : q.packets <;> simp [take, h]

theorem packets_ne_nil_of_full {q : PacketQueue} (positive : 0 < q.capacity)
    (full : ¬ q.hasRoom = true) : q.packets ≠ [] := by
  intro empty
  simp only [hasRoom, empty, List.length_nil, decide_eq_true_eq] at full
  exact full positive

-- What one offer leaves of the residents and the offered packet, and which of them it parts with.
structure Conserves (before after discarded returned broken : List Packet) : Prop where
  ordered : after.Sublist before
  complete : before.Perm (after ++ (discarded ++ returned ++ broken))

theorem overflow_conserves (q : PacketQueue) (p : Packet) (occupied : q.packets ≠ [])
    (decision : DropDecision) :
    ∃ discarded, discarded.map Packet.sequence = Offered.named (.ok (q.overflow p decision).2) ∧
      Conserves (q.packets ++ [p]) (q.overflow p decision).1.packets discarded
        (Offered.returned (.ok (q.overflow p decision).2)) [] := by
  cases decision with
  | dropIncoming =>
    exact ⟨[p], rfl, List.sublist_append_left _ _, by simp [overflow, Offered.returned]⟩
  | dropOldest =>
    obtain ⟨victim, rest, same⟩ := List.exists_cons_of_ne_nil occupied
    refine ⟨[victim], by simp [overflow, Offered.named, same], ?_, ?_⟩
    · simp [overflow, same]
    · have moved := (List.perm_append_singleton victim (rest ++ [p])).symm
      simpa [overflow, Offered.returned, same] using moved
  | dropNewestQueued =>
    have same : q.packets.dropLast ++ [q.packets.getLast occupied] = q.packets :=
      List.dropLast_concat_getLast occupied
    have newest : q.packets.getLast? = some (q.packets.getLast occupied) :=
      List.getLast?_eq_some_getLast occupied
    refine ⟨[q.packets.getLast occupied], by simp [overflow, Offered.named, newest], ?_, ?_⟩
    · exact (List.dropLast_sublist _).append (List.Sublist.refl _)
    · simp only [overflow, push_packets, Offered.returned, List.append_nil]
      conv => lhs; rw [← same]
      simp only [List.append_assoc, List.singleton_append]
      exact (List.Perm.swap _ _ _).append_left _
  | rejectAndSignal =>
    exact ⟨[], rfl, List.sublist_append_left _ _, by simp [overflow, Offered.returned]⟩

@[simp] theorem overflow_capacity (q : PacketQueue) (p : Packet) (decision : DropDecision) :
    (q.overflow p decision).1.capacity = q.capacity := by
  cases decision <;> rfl

@[simp] theorem offer_capacity (q : PacketQueue) (p : Packet) :
    (q.offer p).1.capacity = q.capacity := by
  unfold offer
  split
  · rfl
  · split
    · exact overflow_capacity _ p _
    · rfl

theorem offer_strategy (q : PacketQueue) (p : Packet) :
    (q.offer p).1.strategy = q.strategy := by
  unfold offer
  split
  · rfl
  · split
    case h_1 decision decided => cases decision <;> rfl
    case h_2 => rfl

/-- A queue with a slot parts with no packet that its outcome does not name, and with one at most. -/
theorem offer_conserves (q : PacketQueue) (p : Packet) (positive : 0 < q.capacity) :
    ∃ discarded, discarded.map Packet.sequence = Offered.named (q.offer p).2 ∧
      Conserves (q.packets ++ [p]) (q.offer p).1.packets discarded
        (Offered.returned (q.offer p).2) (Offered.broken p (q.offer p).2) := by
  by_cases room : q.hasRoom = true
  · refine ⟨[], ?_, ?_, ?_⟩ <;> simp [offer, room, Offered.named, Offered.returned, Offered.broken]
  -- a full queue that has a slot holds a packet, so that a drop always finds its victim
  · have occupied := packets_ne_nil_of_full positive room
    cases asked : q.strategy.onOverflow q.consultations q.view p with
    | ok decision =>
      let asking : PacketQueue := { q with consultations := q.consultations + 1 }
      have spec := overflow_conserves asking p occupied decision
      simpa [offer, room, asked, Offered.broken] using spec
    | error fault =>
      refine ⟨[], ?_, ?_, ?_⟩ <;>
        simp [offer, room, asked, Offered.named, Offered.returned, Offered.broken]

theorem eq_of_overflow_rejected {q : PacketQueue} {p r : Packet} {decision : DropDecision}
    (refused : (q.overflow p decision).2 = .rejected r) : r = p := by
  cases decision <;> simp [overflow] at refused
  exact refused.symm

theorem eq_of_offer_rejected {q : PacketQueue} {p r : Packet}
    (refused : (q.offer p).2 = .ok (.rejected r)) : r = p := by
  unfold offer at refused
  split at refused
  · simp at refused
  · split at refused
    · exact eq_of_overflow_rejected (Except.ok.inj refused)
    · simp at refused

end PacketQueue
end CaptureQueue
