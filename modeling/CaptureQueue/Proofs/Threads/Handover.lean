import CaptureQueue.Proofs.Queue.History
import CaptureQueue.Proofs.Threads.Balance

/-! Threads that wait for packets, and threads that bring them. What a thread does while it holds the
lock of the queue is one step; a waiting thread gives the lock up in the same step in which it lies
down, and is woken by a notice that is given after the lock was let go. No packet stays behind while a
thread sleeps that nobody is about to wake: each is matched by a thread on its way, or by a notice. -/

set_option autoImplicit false
namespace CaptureQueue

inductive Patience where
  | none
  | limited
  | endless
deriving DecidableEq

inductive Sender where
  | arriving (p : Packet)
  | notifying (outcome : Except Fault Offered)
  | done (outcome : Except Fault Offered)

/-- One that is asleep waits for a notice, and all others that are not done wait for the lock. -/
inductive Receiver where
  | arriving (patience : Patience)
  | asleep (patience : Patience)
  | notified (patience : Patience)
  | expired
  | draining
  | done (packets : List Packet)
deriving DecidableEq

structure Handover where
  queue : MeteredQueue
  senders : List Sender := []
  receivers : List Receiver := []

/-- To send and to receive is to get the lock. A sender notifies one sleeper, or nobody if all are
awake. -/
inductive HandoverAction where
  | enqueue (p : Packet)
  | dequeue (patience : Patience)
  | drain
  | setStrategy (s : DropStrategy)
  | send (index : Nat)
  | notify (index : Nat) (sleeper : Option Nat)
  | receive (index : Nat)
  | expire (index : Nat)

/-- Whether the offered packet was taken in, be it for another one. -/
def Offered.admits : Except Fault Offered → Bool
  | .ok .accepted | .ok (.dropped .dropOldest _) | .ok (.dropped .dropNewestQueued _) => true
  | _ => false

namespace Sender

/-- What a sender does under the lock. The drop that it may have to count is counted with it. -/
def step (q : MeteredQueue) : Sender → Option (MeteredQueue × Sender)
  | .arriving p =>
    let (q, outcome) := (q.enqueue p).value
    some (q, if Offered.admits outcome then .notifying outcome else .done outcome)
  | _ => none

def notify : Sender → Option Sender
  | .notifying outcome => some (.done outcome)
  | _ => none

def notifies : Sender → Bool
  | .notifying _ => true
  | _ => false

end Sender

namespace Receiver

def take (q : MeteredQueue) : MeteredQueue × Receiver :=
  let (q, packet) := q.dequeue.value
  (q, .done packet.toList)

def takeOrSleep (q : MeteredQueue) (patience : Patience) : MeteredQueue × Receiver :=
  if q.queue.packets.isEmpty then (q, .asleep patience) else take q

/-- What a receiver does under the lock. One that was notified looks again, since another may have
come before it. -/
def step (q : MeteredQueue) : Receiver → Option (MeteredQueue × Receiver)
  | .arriving .none => some (take q)
  | .arriving patience => some (takeOrSleep q patience)
  | .notified patience => some (takeOrSleep q patience)
  | .expired => some (take q)
  | .draining => some (q.drain.1, .done q.drain.2)
  | _ => none

def wake : Receiver → Option Receiver
  | .asleep patience => some (.notified patience)
  | _ => none

def expire : Receiver → Option Receiver
  | .asleep .limited => some .expired
  | _ => none

def sleeps : Receiver → Bool
  | .asleep _ => true
  | _ => false

def comes : Receiver → Bool
  | .notified _ => true
  | _ => false

end Receiver

namespace Handover

def wake (h : Handover) : Option Nat → Option (List Receiver)
  | some index => do
    let r ← (← h.receivers[index]?).wake
    return h.receivers.set index r
  | none => if h.receivers.any Receiver.sleeps then none else some h.receivers

def step (h : Handover) : HandoverAction → Option Handover
  | .enqueue p => some { h with senders := h.senders ++ [.arriving p] }
  | .dequeue patience => some { h with receivers := h.receivers ++ [.arriving patience] }
  | .drain => some { h with receivers := h.receivers ++ [.draining] }
  | .setStrategy s => some { h with queue := (h.queue.setStrategy s).value }
  | .send index => do
    let (queue, s) ← (← h.senders[index]?).step h.queue
    return { h with queue := queue, senders := h.senders.set index s }
  | .notify index sleeper => do
    let s ← (← h.senders[index]?).notify
    let receivers ← h.wake sleeper
    return { h with senders := h.senders.set index s, receivers := receivers }
  | .receive index => do
    let (queue, r) ← (← h.receivers[index]?).step h.queue
    return { h with queue := queue, receivers := h.receivers.set index r }
  | .expire index => do
    let r ← (← h.receivers[index]?).expire
    return { h with receivers := h.receivers.set index r }

def run (h : Handover) (actions : List HandoverAction) : Option Handover := actions.foldlM step h

def resident (h : Handover) : Nat := h.queue.queue.packets.length

def asleep (h : Handover) : Nat := h.receivers.countP Receiver.sleeps

/-- Receivers that were notified and have not got the lock yet. -/
def coming (h : Handover) : Nat := h.receivers.countP Receiver.comes

def pending (h : Handover) : Nat := h.senders.countP Sender.notifies

end Handover

/-! ## What is done under the lock -/

namespace PacketQueue

theorem length_overflow (q : PacketQueue) (p : Packet) (decision : DropDecision) :
    (q.overflow p decision).1.packets.length ≤
      q.packets.length + (Offered.admits (.ok (q.overflow p decision).2)).toNat := by
  cases decision <;> simp [overflow, Offered.admits]

theorem length_offer (q : PacketQueue) (p : Packet) :
    (q.offer p).1.packets.length ≤ q.packets.length + (Offered.admits (q.offer p).2).toNat := by
  unfold offer
  split
  · simp [Offered.admits]
  · split
    · exact length_overflow { q with consultations := q.consultations + 1 } p _
    · exact Nat.le_add_right _ _

end PacketQueue

/-- A sender that makes the queue longer has a notice to give for it. -/
theorem Sender.step_resident {q q' : MeteredQueue} {s s' : Sender}
    (stepped : s.step q = some (q', s')) :
    q'.queue.packets.length + s.notifies.toNat ≤ q.queue.packets.length + s'.notifies.toNat := by
  cases s with
  | arriving p =>
    have grown := q.queue.length_offer p
    simp only [step, Option.some.injEq, Prod.mk.injEq] at stepped
    obtain ⟨rfl, rfl⟩ := stepped
    rw [MeteredQueue.enqueue_queue, MeteredQueue.enqueue_outcome]
    cases admits : Offered.admits (q.queue.offer p).2 <;> simpa [notifies, admits] using grown
  | notifying | done => cases stepped

namespace Receiver

variable {q q' : MeteredQueue} {r r' : Receiver}

inductive Attended (q : MeteredQueue) : MeteredQueue → Receiver → Prop where
  | lieDown {patience : Patience} (empty : q.queue.packets = []) : Attended q q (.asleep patience)
  | giveUp {q' : MeteredQueue} (empty : q.queue.packets = []) (still : q'.queue.packets = []) :
      Attended q q' (.done [])
  | take {q' : MeteredQueue} {p : Packet} (oldest : q.queue.packets = p :: q'.queue.packets) :
      Attended q q' (.done [p])
  | takeAll {q' : MeteredQueue} (emptied : q'.queue.packets = []) :
      Attended q q' (.done q.queue.packets)

theorem attended_take (q : MeteredQueue) : Attended q (take q).1 (take q).2 := by
  obtain ⟨queue, packet⟩ := q.dequeue_eq
  have left : (take q).1.queue.packets = q.queue.packets.tail := congrArg PacketQueue.packets queue
  have outcome : (take q).2 = .done q.queue.packets.head?.toList :=
    congrArg (fun packet : Option Packet => Receiver.done packet.toList) packet
  rw [outcome]
  cases packets : q.queue.packets with
  | nil =>
    rw [packets] at left
    exact .giveUp packets left
  | cons p rest =>
    rw [packets] at left
    exact .take (packets.trans (congrArg (p :: ·) left.symm))

theorem attended_takeOrSleep (q : MeteredQueue) (patience : Patience) :
    Attended q (takeOrSleep q patience).1 (takeOrSleep q patience).2 := by
  unfold takeOrSleep
  split
  case isTrue empty => exact .lieDown (List.isEmpty_iff.mp empty)
  case isFalse => exact attended_take q

theorem attended_of_step (stepped : r.step q = some (q', r')) :
    r.sleeps = false ∧ Attended q q' r' := by
  have of_eq {result : MeteredQueue × Receiver} (attended : Attended q result.1 result.2)
      (same : some result = some (q', r')) : Attended q q' r' := by
    cases same
    exact attended
  cases r with
  | arriving patience =>
    cases patience with
    | none => exact ⟨rfl, of_eq (attended_take q) stepped⟩
    | limited | endless => exact ⟨rfl, of_eq (attended_takeOrSleep q _) stepped⟩
  | notified patience => exact ⟨rfl, of_eq (attended_takeOrSleep q patience) stepped⟩
  | expired => exact ⟨rfl, of_eq (attended_take q) stepped⟩
  | draining => exact ⟨rfl, of_eq (.takeAll rfl) stepped⟩
  | asleep | done => cases stepped

end Receiver

/-! ## The balance of sleepers and notices -/

namespace Handover

variable {h h' : Handover}

/-- While somebody sleeps, each resident packet is matched by a receiver on its way or by a notice. -/
def Covered (h : Handover) : Prop := 0 < h.asleep → h.resident ≤ h.coming + h.pending

theorem Covered.send {index : Nat} {s s' : Sender} {q : MeteredQueue} (covered : h.Covered)
    (found : h.senders[index]? = some s) (moved : s.step h.queue = some (q, s')) :
    Covered { h with queue := q, senders := h.senders.set index s' } := by
  have grown := Sender.step_resident moved
  have notices := countP_set_toNat found Sender.notifies s'
  intro sleeping
  have before := covered sleeping
  simp only [resident, coming, pending] at before ⊢
  omega

theorem Covered.notify {index : Nat} {s s' : Sender} {sleeper : Option Nat}
    {receivers : List Receiver} (covered : h.Covered) (found : h.senders[index]? = some s)
    (given : s.notify = some s') (woken : h.wake sleeper = some receivers) :
    Covered { h with senders := h.senders.set index s', receivers := receivers } := by
  have notices := countP_set_toNat found Sender.notifies s'
  cases s with
  | arriving | done => cases given
  | notifying outcome =>
    cases given
    cases sleeper with
    | none =>
      simp only [wake] at woken
      split at woken
      case isTrue => cases woken
      case isFalse awake =>
        cases woken
        intro sleeping
        obtain ⟨r, member, sleeps⟩ := List.countP_pos_iff.mp sleeping
        exact absurd (List.any_eq_true.mpr ⟨r, member, sleeps⟩) awake
    | some other =>
      simp only [wake, bind, Option.bind_eq_some_iff] at woken
      obtain ⟨r, lies, r', wakes, same⟩ := woken
      cases same
      have comers := countP_set_toNat lies Receiver.comes r'
      have sleepers := countP_set_toNat lies Receiver.sleeps r'
      cases r <;> cases wakes
      intro sleeping
      simp only [Sender.notifies, Receiver.comes, Receiver.sleeps, Bool.toNat_true,
        Bool.toNat_false] at notices comers sleepers
      have before := covered (by simp only [asleep] at sleeping ⊢; omega)
      simp only [resident, coming, pending] at before ⊢
      omega

theorem Covered.receive {index : Nat} {r r' : Receiver} {q : MeteredQueue} (covered : h.Covered)
    (found : h.receivers[index]? = some r) (moved : r.step h.queue = some (q, r')) :
    Covered { h with queue := q, receivers := h.receivers.set index r' } := by
  obtain ⟨awake, attended⟩ := Receiver.attended_of_step moved
  have comers := countP_set_toNat found Receiver.comes r'
  have sleepers := countP_set_toNat found Receiver.sleeps r'
  have few := Bool.toNat_le r.comes
  rw [awake] at sleepers
  intro sleeping
  cases attended with
  | lieDown empty => simp [resident, empty]
  | giveUp _ empty | takeAll empty => simp [resident, empty]
  -- a packet goes with the receiver, who was matched with one at most
  | take oldest =>
    change _ + r.comes.toNat = _ + 0 at comers
    change _ + 0 = _ + 0 at sleepers
    have before := covered (by simp only [asleep] at sleeping ⊢; omega)
    simp only [resident, coming, pending, oldest, List.length_cons] at before ⊢
    omega

theorem Covered.expire {index : Nat} {r r' : Receiver} (covered : h.Covered)
    (found : h.receivers[index]? = some r) (tired : r.expire = some r') :
    Covered { h with receivers := h.receivers.set index r' } := by
  have comers := countP_set_toNat found Receiver.comes r'
  have sleepers := countP_set_toNat found Receiver.sleeps r'
  have same : r.comes = false ∧ r'.comes = false ∧ r'.sleeps = false := by
    cases r with
    | asleep patience => cases patience <;> cases tired; exact ⟨rfl, rfl, rfl⟩
    | _ => cases tired
  rw [same.1, same.2.1] at comers
  rw [same.2.2] at sleepers
  intro sleeping
  have before := covered (by simp only [asleep, Bool.toNat_false] at sleeping sleepers ⊢; omega)
  simp only [resident, coming, pending, Bool.toNat_false] at before comers ⊢
  omega

theorem Covered.step {action : HandoverAction} (covered : h.Covered)
    (stepped : h.step action = some h') : h'.Covered := by
  cases action with
  | enqueue | dequeue | drain =>
    cases stepped
    intro sleeping
    simpa [resident, coming, pending, List.countP_append, List.countP_cons, Receiver.comes,
      Sender.notifies] using covered (by simpa [asleep, Receiver.sleeps] using sleeping)
  | setStrategy =>
    cases stepped
    exact covered
  | send index =>
    simp only [Handover.step, bind, Option.bind_eq_some_iff] at stepped
    obtain ⟨s, found, ⟨q, s'⟩, moved, same⟩ := stepped
    cases same
    exact covered.send found moved
  | notify index sleeper =>
    simp only [Handover.step, bind, Option.bind_eq_some_iff] at stepped
    obtain ⟨s, found, s', given, receivers, woken, same⟩ := stepped
    cases same
    exact covered.notify found given woken
  | receive index =>
    simp only [Handover.step, bind, Option.bind_eq_some_iff] at stepped
    obtain ⟨r, found, ⟨q, r'⟩, moved, same⟩ := stepped
    cases same
    exact covered.receive found moved
  | expire index =>
    simp only [Handover.step, bind, Option.bind_eq_some_iff] at stepped
    obtain ⟨r, found, r', tired, same⟩ := stepped
    cases same
    exact covered.expire found tired

theorem Covered.run {actions : List HandoverAction} (covered : h.Covered)
    (ran : h.run actions = some h') : h'.Covered := by
  induction actions generalizing h with
  | nil =>
    cases ran
    exact covered
  | cons action rest ih =>
    simp only [Handover.run, List.foldlM_cons, bind, Option.bind_eq_some_iff] at ran
    obtain ⟨next, stepped, ran⟩ := ran
    exact ih (covered.step stepped) ran

theorem mem_of_getElem?_set {threads : List Receiver} {index other : Nat} {next r : Receiver}
    (now : (threads.set index next)[other]? = some r) : threads[other]? = some r ∨ next = r := by
  by_cases same : index = other
  · subst same
    have bound : index < threads.length := by
      simpa using (List.getElem?_eq_some_iff.mp now).1
    rw [List.getElem?_set_self bound] at now
    exact .inr (Option.some.inj now)
  · rw [List.getElem?_set_ne same] at now
    exact .inl now

theorem mem_of_getElem?_concat {threads : List Receiver} {index : Nat} {next r : Receiver}
    (now : (threads ++ [next])[index]? = some r) : threads[index]? = some r ∨ next = r := by
  rcases Nat.lt_trichotomy index threads.length with before | rfl | after
  · rw [List.getElem?_append_left before] at now
    exact .inl now
  · exact .inr (by simpa using now)
  · rw [List.getElem?_eq_none (by simp only [List.length_append, List.length_singleton]; omega)] at now
    cases now

theorem resident_of_emptyHanded {action : HandoverAction} {index : Nat}
    (stepped : h.step action = some h') (now : h'.receivers[index]? = some (.done [])) :
    h.receivers[index]? = some (.done []) ∨ h.resident = 0 := by
  cases action with
  | enqueue | setStrategy =>
    cases stepped
    exact .inl now
  | dequeue | drain =>
    cases stepped
    exact .inl ((mem_of_getElem?_concat now).resolve_right (by simp))
  | send =>
    simp only [Handover.step, bind, Option.bind_eq_some_iff] at stepped
    obtain ⟨s, _, ⟨q, s'⟩, _, same⟩ := stepped
    cases same
    exact .inl now
  | notify other sleeper =>
    simp only [Handover.step, bind, Option.bind_eq_some_iff] at stepped
    obtain ⟨s, _, s', _, receivers, woken, same⟩ := stepped
    cases same
    cases sleeper with
    | none =>
      simp only [wake] at woken
      split at woken <;> cases woken
      exact .inl now
    | some sleeper =>
      simp only [wake, bind, Option.bind_eq_some_iff] at woken
      obtain ⟨r, _, r', wakes, same⟩ := woken
      cases same
      cases r <;> cases wakes
      exact .inl ((mem_of_getElem?_set now).resolve_right (by simp))
  | receive other =>
    simp only [Handover.step, bind, Option.bind_eq_some_iff] at stepped
    obtain ⟨r, _, ⟨q, r'⟩, moved, same⟩ := stepped
    cases same
    rcases mem_of_getElem?_set now with before | gone
    · exact .inl before
    · refine .inr (List.length_eq_zero_iff.mpr ?_)
      generalize attended : (Receiver.attended_of_step moved).2 = how
      cases how with
      | lieDown => cases gone
      | giveUp empty => exact empty
      | take => cases gone
      | takeAll => exact Receiver.done.inj gone
  | expire other =>
    simp only [Handover.step, bind, Option.bind_eq_some_iff] at stepped
    obtain ⟨r, _, r', tired, same⟩ := stepped
    cases same
    have left : r' = .expired := by
      cases r with
      | asleep patience => cases patience <;> cases tired; rfl
      | _ => cases tired
    exact .inl ((mem_of_getElem?_set now).resolve_right (by simp [left]))

/-- While somebody sleeps whom nobody has notified, each resident packet is matched by a receiver
that was notified and is on its way to the lock, or by a notice still to be given. So nobody sleeps
beside a packet with nothing to come, and who gives up does so on an empty queue. -/
theorem no_lost_wakeup {q : MeteredQueue} {actions : List HandoverAction}
    (ran : run { queue := q } actions = some h) :
    (0 < h.asleep → h.resident ≤ h.coming + h.pending) ∧
    ¬ (0 < h.resident ∧ h.coming = 0 ∧ h.pending = 0 ∧ 0 < h.asleep) ∧
    ∀ (action : HandoverAction) (h' : Handover) (index : Nat), h.step action = some h' →
      h'.receivers[index]? = some (.done []) →
        h.receivers[index]? = some (.done []) ∨ h.resident = 0 := by
  have covered : h.Covered := by
    refine Covered.run (h := { queue := q }) (fun sleeping => ?_) ran
    cases sleeping
  refine ⟨covered, ?_, fun action h' index => resident_of_emptyHanded⟩
  rintro ⟨some, coming, pending, sleeping⟩
  have few := covered sleeping
  omega

/-- Three sleep, one of them not for ever. Two packets come, and one notice for them is given before a
thread that does not wait takes the older packet. The newer one is left for the receiver who is on its
way, and a notice is still to come for the one who sleeps on. -/
theorem no_lost_wakeup_of_steal :
    let q : MeteredQueue := { queue := .create 2 (.always .dropOldest) }
    let actions : List HandoverAction := List.flatten [
      [.dequeue .endless, .dequeue .limited, .dequeue .endless], [.receive 0, .receive 1, .receive 2],
      [.enqueue { sequence := 0, data := [1] }, .enqueue { sequence := 1, data := [2] }],
      [.send 0, .send 1, .notify 0 (some 2), .expire 1, .dequeue .none, .receive 3]]
    ∃ h, run { queue := q } actions = some h ∧
      h.receivers = [.asleep .endless, .expired, .notified .endless,
        .done [{ sequence := 0, data := [1] }]] ∧
      (h.resident, h.asleep, h.coming, h.pending) = (1, 1, 1, 1) ∧
      h.resident ≤ h.coming + h.pending := by
  intro q actions
  obtain ⟨h, ran, now⟩ : ∃ h, run { queue := q } actions = some h ∧
      (h.receivers, h.resident, h.asleep, h.coming, h.pending) =
        ([.asleep .endless, .expired, .notified .endless,
          .done [{ sequence := 0, data := [1] }]], 1, 1, 1, 1) := by
    rw [← Option.map_eq_some_iff]
    decide +kernel
  simp only [Prod.mk.injEq] at now
  obtain ⟨receivers, resident, asleep, coming, pending⟩ := now
  refine ⟨h, ran, receivers, by rw [resident, asleep, coming, pending], ?_⟩
  exact (no_lost_wakeup ran).1 (by rw [asleep]; decide)

end Handover
end CaptureQueue
