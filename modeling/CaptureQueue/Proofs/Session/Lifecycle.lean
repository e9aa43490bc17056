import CaptureQueue.Backend.Scripted
import CaptureQueue.Proofs.Session.Calls
import Mathlib.Data.List.Perm.Basic

/-! The order of a session's life. One start at most gets past the transition, whatever calls are
made; and once a stop has returned there is no producer, nor will there be one. -/

set_option autoImplicit false
namespace CaptureQueue

variable {σ τ : Type}

/-! ## How a session begins -/

/-- A session that nothing has happened to. -/
structure Session.Fresh (s : Session σ τ) : Prop where
  phase : s.phase = .idle
  producer : s.producer = .absent
  queue : ∃ capacity strategy, 0 < capacity ∧ s.queue = { queue := .create capacity strategy }

theorem MeteredQueue.create_ok {capacity : Nat} {strategy : DropStrategy} {m : MeteredQueue}
    (made : (create capacity strategy).value = .ok (.ok m)) :
    0 < capacity ∧ m = { queue := .create capacity strategy } := by
  unfold create at made
  split at made
  · cases made
  · simp only [bind, Traced.bind] at made
    split at made
    · cases made
    · cases made
      exact ⟨by omega, rfl⟩

theorem Session.create_eq_ok {config : Config} {backend : Backend σ τ} {world : σ} {s : Session σ τ}
    (made : (create config backend world).value.1 = .ok (.ok s)) :
    config.validate = .ok () ∧ 0 < config.queue.capacity ∧ ∃ interface : InterfaceId, s = {
      backend := backend, interface := interface, options := config.openOptions,
      filters := config.filterChain, queue := {
        queue := .create config.queue.capacity (.always config.queue.dropStrategy) } } := by
  unfold create Act.within Traced.within at made
  cases checked : config.validate with
  | error e =>
    rw [checked] at made
    cases made
  | ok _ =>
    rw [checked] at made
    simp only [Act.value_bind] at made
    cases resolved : (backend.resolve config.capture.interface world).value.1 with
    | error e =>
      rw [resolved] at made
      cases made
    | ok interface =>
      rw [resolved] at made
      simp only [Act.value_bind, Act.value_lift] at made
      cases created : (MeteredQueue.create config.queue.capacity
          (DropStrategy.always config.queue.dropStrategy)).value with
      | error fault =>
        rw [created] at made
        cases made
      | ok outcome =>
        rw [created] at made
        cases outcome with
        | error e => cases made
        | ok queue =>
          obtain ⟨positive, rfl⟩ := MeteredQueue.create_ok created
          cases made
          exact ⟨rfl, positive, interface, rfl⟩

theorem Session.create_fresh {config : Config} {backend : Backend σ τ} {world : σ} {s : Session σ τ}
    (made : (create config backend world).value.1 = .ok (.ok s)) : s.Fresh := by
  obtain ⟨_, positive, _, rfl⟩ := create_eq_ok made
  exact ⟨rfl, rfl, _, _, positive, rfl⟩

/-! ## The invariant of all calls together -/

/-- What holds of a session and of the calls made to it, whoever has done what. -/
structure Orderly (l : LiveSession σ τ) (calls : List (Call τ)) : Prop where
  lock : calls.countP Call.holds = l.locked.toNat
  passed_le : calls.countP Call.passed ≤ 1
  idle : l.session.phase = .idle → calls.countP Call.passed = 0
  marked : ∀ c ∈ calls, c.marked = true → l.session.phase = .stopped
  openings : l.openings + calls.countP Call.opens = calls.countP Call.passed
  opened : l.opened.length ≤ l.openings
  spawnings : l.spawnings + (calls.flatMap Call.streams).length = l.opened.length
  streams : l.opened.Perm (calls.flatMap Call.streams ++ l.session.producer.streams ++ l.closed)
  handle : l.session.producer.present.toNat = l.stored.toNat + calls.countP Call.hasHandle
  present : l.session.producer.present.toNat ≤ l.spawnings
  inside : l.ingest ≠ none →
    ∃ data stream frames, l.session.producer = .active (.ingest data) stream frames
  refused : ∀ c ∈ calls, ∀ result, c.refusal = some result → ∃ phase : Phase, phase ≠ .idle ∧
    result = .error (.invalidState phase.name Phase.capturing.name)

namespace Orderly

variable {l l' : LiveSession σ τ} {c c' : Call τ} {calls others : List (Call τ)}

theorem perm (h : Orderly l calls) (same : calls.Perm others) : Orderly l others where
  lock := by rw [← same.countP_eq, h.lock]
  passed_le := by rw [← same.countP_eq]; exact h.passed_le
  idle := by rw [← same.countP_eq]; exact h.idle
  marked := fun c member => h.marked c (same.mem_iff.mpr member)
  openings := by rw [← same.countP_eq, ← same.countP_eq, h.openings]
  opened := h.opened
  spawnings := by rw [← (same.flatMap_right _).length_eq, h.spawnings]
  streams := h.streams.trans (((same.flatMap_right _).append_right _).append_right _)
  handle := by rw [← same.countP_eq, h.handle]
  present := h.present
  inside := h.inside
  refused := fun c member => h.refused c (same.mem_iff.mpr member)

theorem start {s : Session σ τ} (fresh : s.Fresh) (world : σ) : Orderly (.ofSession s world) [] := by
  have absent : (LiveSession.ofSession s world).session.producer = .absent := fresh.producer
  constructor
  case streams => rw [absent]; exact .refl _
  case handle => rw [absent]; rfl
  case present => rw [absent]; exact Nat.zero_le _
  case marked | refused => intro c member; cases member
  case inside => intro inside; exact absurd rfl inside
  all_goals simp [LiveSession.ofSession]

-- While a start has a stream for it there has been no producer.
theorem alone (h : Orderly l (c :: others)) (opened : c.streams ≠ []) :
    l.spawnings = 0 ∧ l.session.producer = .absent := by
  have spawnings := h.spawnings
  have few := h.opened
  have openings := h.openings
  have passed := h.passed_le
  have present := h.present
  have some : 0 < c.streams.length := List.length_pos_iff.mpr opened
  rw [List.flatMap_cons, List.length_append] at spawnings
  refine ⟨by omega, ?_⟩
  cases on : l.session.producer with
  | absent => rfl
  | active | ended =>
    rw [on] at present
    simp only [Producer.present, Bool.toNat_true] at present
    omega

theorem spawned (h : Orderly l calls) (present : l.session.producer ≠ .absent) :
    l.spawnings ≠ 0 := by
  intro none
  have few := h.present
  rw [none] at few
  cases on : l.session.producer with
  | absent => exact present on
  | active | ended => simp [on, Producer.present] at few

theorem outside (h : Orderly l calls)
    (absent : l.session.producer = .absent) : l.ingest = none := by
  by_contra inside
  obtain ⟨data, stream, frames, on⟩ := h.inside inside
  rw [absent] at on
  cases on

theorem empty (h : Orderly l (c :: others)) (handle : c.hasHandle = true) : l.stored = false := by
  have balance := h.handle
  have bound := Bool.toNat_le l.session.producer.present
  rw [countP_cons_toNat, handle] at balance
  have none : l.stored.toNat = 0 := by simp only [Bool.toNat_true] at balance; omega
  simpa using none

theorem locked (h : Orderly l (c :: others)) (holds : c.holds = true) :
    l.locked = true ∧ ∀ other ∈ others, other.holds = false := by
  have lock := h.lock
  have bound := Bool.toNat_le l.locked
  rw [countP_cons_toNat, holds] at lock
  simp only [Bool.toNat_true] at lock
  have one : l.locked.toNat = 1 := by omega
  have none : others.countP Call.holds = 0 := by omega
  rw [List.countP_eq_zero] at none
  exact ⟨by simpa using one, fun other member => by simpa using none other member⟩

theorem call_step (h : Orderly l (c :: others)) (stepped : c.step l = some (l', c')) :
    Orderly l' (c' :: others) := by
  have phase := Call.step_phase stepped
  have locked := Call.step_locked (fun holds => (h.locked holds).1) stepped
  have passed := Call.step_passed stepped
  have openings := Call.step_openings stepped
  have absent : c.streams ≠ [] → l.session.producer = .absent := fun opened => (h.alone opened).2
  obtain ⟨added, opened, closed, streams, spawned⟩ := Call.step_streams absent stepped
  have handle := Call.step_handle absent h.empty stepped
  have lockBefore := h.lock
  have passedBefore := h.passed_le
  have idleBefore := h.idle
  have openingsBefore := h.openings
  have spawningsBefore := h.spawnings
  have handleBefore := h.handle
  simp only [countP_cons_toNat, List.flatMap_cons, List.length_append]
    at lockBefore passedBefore idleBefore openingsBefore spawningsBefore handleBefore
  constructor
  case lock => rw [countP_cons_toNat]; omega
  case passed_le =>
    rw [countP_cons_toNat]
    rcases passed with same | ⟨_, now, idle, _⟩
    · rw [same]
      exact passedBefore
    -- the transition needs an idle session, and in one no start has passed yet
    · have none := idleBefore idle
      have one := Bool.toNat_le c'.passed
      omega
  case idle =>
    intro idle
    rw [countP_cons_toNat]
    rcases passed with same | ⟨_, _, _, capturing⟩
    · rw [same]
      exact idleBefore (Phase.eq_idle_of_leads (idle ▸ phase))
    · rw [capturing] at idle
      cases idle
  case marked =>
    intro d member marked
    rcases List.mem_cons.mp member with rfl | other
    · rcases Call.step_marked stepped marked with before | now
      · exact Phase.eq_stopped_of_leads (h.marked c List.mem_cons_self before ▸ phase)
      · exact now
    · exact Phase.eq_stopped_of_leads (h.marked d (List.mem_cons_of_mem _ other) marked ▸ phase)
  case openings =>
    rw [countP_cons_toNat, countP_cons_toNat]
    omega
  case opened =>
    have before := h.opened
    omega
  case spawnings =>
    rw [List.flatMap_cons, List.length_append, opened, List.length_append]
    omega
  case streams =>
    have before := h.streams
    classical
    simp only [List.perm_iff_count] at before streams ⊢
    intro stream
    have countBefore := before stream
    have count := streams stream
    simp only [List.flatMap_cons, List.count_append, opened, closed] at countBefore count ⊢
    omega
  case handle =>
    rw [countP_cons_toNat]
    omega
  case present =>
    have before := h.present
    omega
  case inside =>
    intro inside
    rw [(Call.step_frame stepped).2.1] at inside
    obtain ⟨data, stream, frames, on⟩ := h.inside inside
    rcases Call.step_producer stepped with ⟨same, _⟩ | ⟨_, opened, _⟩ | ⟨clean, ended, _⟩
    · exact ⟨data, stream, frames, same.trans on⟩
    · cases on.symm.trans (absent (by simp [opened]))
    · rw [on] at ended
      cases ended
  case refused =>
    intro d member result refused
    rcases List.mem_cons.mp member with rfl | other
    · rcases Call.step_refusal stepped refused with before | now
      · exact h.refused c List.mem_cons_self result before
      · exact now
    · exact h.refused d (List.mem_cons_of_mem _ other) result refused

theorem of_producer (h : Orderly l calls) (locked : l'.locked = l.locked)
    (stored : l'.stored = l.stored) (openings : l'.openings = l.openings)
    (spawnings : l'.spawnings = l.spawnings) (opened : l'.opened = l.opened)
    (phase : l'.session.phase = l.session.phase ∨ l'.session.phase = .stopped)
    (present : l'.session.producer.present = l.session.producer.present)
    (streams : l'.session.producer.streams ++ l'.closed = l.session.producer.streams ++ l.closed ∨
      ∃ stream, l.session.producer.streams = [stream] ∧ l'.session.producer.streams = [] ∧
        l'.closed = l.closed ++ [stream])
    (inside : l'.ingest ≠ none →
      ∃ data stream frames, l'.session.producer = .active (.ingest data) stream frames) :
    Orderly l' calls where
  lock := by rw [locked, h.lock]
  passed_le := h.passed_le
  idle := by
    intro idle
    rcases phase with same | stopped
    · exact h.idle (same ▸ idle)
    · rw [stopped] at idle
      cases idle
  marked := by
    intro c member marked
    have before := h.marked c member marked
    rcases phase with same | stopped
    · rw [same, before]
    · exact stopped
  openings := by rw [openings, h.openings]
  opened := by rw [opened, openings]; exact h.opened
  spawnings := by rw [spawnings, opened, h.spawnings]
  streams := by
    have before := h.streams
    rw [List.append_assoc] at before ⊢
    rw [opened]
    rcases streams with same | ⟨stream, was, now, closed⟩
    · rw [same]
      exact before
    · rw [now, closed]
      rw [was] at before
      exact before.trans (List.perm_append_comm.append_left _)
  handle := by rw [present, stored, h.handle]
  present := by rw [present, spawnings]; exact h.present
  inside := inside
  refused := h.refused

theorem produced (h : Orderly l calls) (produced : l.Produced l') : Orderly l' calls := by
  cases produced with
  | turn on outside captures moved =>
    refine h.of_producer rfl rfl rfl rfl rfl moved (by rw [on]; rfl) (.inl (by rw [on]; rfl)) ?_
    intro inside
    obtain ⟨data, stream, frames, same⟩ := h.inside inside
    rw [on] at same
    cases same
    exact absurd rfl (outside data)
  | close on =>
    refine h.of_producer rfl rfl rfl rfl rfl (.inl rfl) (by rw [on]; rfl)
      (.inr ⟨_, by rw [on]; rfl, rfl, rfl⟩) ?_
    intro inside
    obtain ⟨data, stream, frames, same⟩ := h.inside inside
    rw [on] at same
    cases same
  | work on moved =>
    exact h.of_producer rfl rfl rfl rfl rfl (.inl rfl) rfl (.inl rfl) fun _ => ⟨_, _, _, on⟩
  | succeed on through =>
    exact h.of_producer rfl rfl rfl rfl rfl (.inl rfl) (by rw [on]; rfl) (.inl (by rw [on]; rfl))
      (fun inside => absurd rfl inside)
  | broke on through =>
    exact h.of_producer rfl rfl rfl rfl rfl (.inl rfl) (by rw [on]; rfl) (.inl (by rw [on]; rfl))
      (fun inside => absurd rfl inside)

theorem begin_call (h : Orderly l calls) (new : c = .startLock ∨ c = .stopMark) :
    Orderly l (c :: calls) := by
  rcases new with rfl | rfl
  all_goals
    refine ⟨h.lock, h.passed_le, h.idle, ?_, h.openings, h.opened, h.spawnings, h.streams, h.handle,
      h.present, h.inside, ?_⟩
    · intro c member marked
      rcases List.mem_cons.mp member with rfl | other
      · cases marked
      · exact h.marked c other marked
    · intro c member result refused
      rcases List.mem_cons.mp member with rfl | other
      · cases refused
      · exact h.refused c other result refused

-- The lists of calls and of consumers, the queue and the world have no part in it.
theorem of_eq (h : Orderly l calls) (session : l'.session.phase = l.session.phase ∧
      l'.session.producer = l.session.producer) (ingest : l'.ingest = l.ingest)
    (handle : l'.locked = l.locked ∧ l'.stored = l.stored)
    (counts : l'.openings = l.openings ∧ l'.spawnings = l.spawnings)
    (streams : l'.opened = l.opened ∧ l'.closed = l.closed) : Orderly l' calls :=
  h.of_producer handle.1 handle.2 counts.1 counts.2 streams.1 (.inl session.1) (by rw [session.2])
    (.inl (by rw [session.2, streams.2])) (by rw [ingest, session.2]; exact h.inside)

theorem acted (h : Orderly l l.calls) (acted : l.Acted l') : Orderly l' l'.calls := by
  cases acted with
  | producer produced =>
    rw [produced.frame.1]
    exact h.produced produced
  | beginCall new now =>
    have begun := (h.begin_call new).perm now.symm
    exact begun.of_eq ⟨rfl, rfl⟩ rfl ⟨rfl, rfl⟩ ⟨rfl, rfl⟩ ⟨rfl, rfl⟩
  | call stepped was now =>
    have moved := ((h.perm was).call_step stepped).perm now.symm
    exact moved.of_eq ⟨rfl, rfl⟩ rfl ⟨rfl, rfl⟩ ⟨rfl, rfl⟩ ⟨rfl, rfl⟩
  | beginTaking | taking | edited | outside =>
    exact h.of_eq ⟨rfl, rfl⟩ rfl ⟨rfl, rfl⟩ ⟨rfl, rfl⟩ ⟨rfl, rfl⟩

end Orderly

/-! ## After a stop -/

/-- A session that has come to its end: there is no producer, and no start can bring one. -/
structure Over (l : LiveSession σ τ) (calls : List (Call τ)) : Prop where
  phase : l.session.phase = .stopped
  absent : l.session.producer = .absent
  settled : ∀ c ∈ calls, c.underway = false

structure SharedQueue.Drained (s s' : SharedQueue) : Prop where
  captured : s'.queue.metrics.captured = s.queue.metrics.captured
  filtered : s'.queue.metrics.filtered = s.queue.metrics.filtered
  enqueued : s'.queue.metrics.enqueued = s.queue.metrics.enqueued
  frames : s'.ledger.captured = s.ledger.captured
  unjudged : s'.ledger.unjudged = s.ledger.unjudged
  undecided : s'.ledger.undecided = s.ledger.undecided
  handed : ∃ since, s'.ledger.handed = s.ledger.handed ++ since ∧
    s.queue.queue.packets = since ++ s'.queue.queue.packets

namespace SharedQueue.Drained

theorem refl (s : SharedQueue) : s.Drained s :=
  ⟨rfl, rfl, rfl, rfl, rfl, rfl, [], by simp, rfl⟩

theorem of_eq {s s' : SharedQueue} (metrics : s'.queue.metrics = s.queue.metrics)
    (packets : s'.queue.queue.packets = s.queue.queue.packets) (ledger : s'.ledger = s.ledger) :
    s.Drained s' :=
  ⟨by rw [metrics], by rw [metrics], by rw [metrics], by rw [ledger], by rw [ledger], by rw [ledger],
    [], by simp [ledger], packets.symm⟩

theorem trans {s s' s'' : SharedQueue} (h : s.Drained s') (h' : s'.Drained s'') : s.Drained s'' := by
  obtain ⟨first, handed, left⟩ := h.handed
  obtain ⟨second, handed', left'⟩ := h'.handed
  refine ⟨h'.captured.trans h.captured, h'.filtered.trans h.filtered, h'.enqueued.trans h.enqueued,
    h'.frames.trans h.frames, h'.unjudged.trans h.unjudged, h'.undecided.trans h.undecided,
    first ++ second, ?_, ?_⟩
  · rw [handed', handed, List.append_assoc]
  · rw [left, left', List.append_assoc]

end SharedQueue.Drained

theorem Taking.step_drained {s s' : SharedQueue} {t t' : Taking} (stepped : t.step s = some (s', t')) :
    s.Drained s' := by
  cases t with
  | enter all =>
    simp only [step] at stepped
    split at stepped <;> cases stepped
    exact .of_eq rfl rfl rfl
  | take all =>
    cases stepped
    exact ⟨rfl, rfl, rfl, rfl, rfl, rfl, (s.taken all).2, rfl, (s.taken_conserves all).symm⟩
  | count n packets =>
    cases n with
    | zero =>
      cases stepped
      exact .of_eq rfl rfl rfl
    | succ n =>
      cases stepped
      exact ⟨rfl, rfl, rfl, rfl, rfl, rfl, [], by simp [SharedQueue.count], rfl⟩
  | done packets => cases stepped

theorem Edit.step_drained {s s' : SharedQueue} {e : Edit} (stepped : e.step s = some s') :
    s.Drained s' := by
  cases e with
  | addFilter p =>
    cases stepped
    exact .of_eq rfl rfl rfl
  | removeFilter id =>
    cases stepped
    exact .of_eq rfl rfl rfl
  | setStrategy strategy =>
    simp only [step] at stepped
    split at stepped <;> cases stepped
    exact .of_eq rfl rfl rfl

/-- What a session looks like some time after the first of two states, seen by a stop that has
returned: nothing has come in, and what has left was handed out. -/
structure LiveSession.After (l l' : LiveSession σ τ) : Prop where
  absent : l'.session.producer = .absent
  inside : l'.ingest = none
  openings : l'.openings = l.openings
  spawnings : l'.spawnings = l.spawnings
  closed : l'.closed = l.closed
  shared : l.shared.Drained l'.shared

theorem LiveSession.After.trans {l l' l'' : LiveSession σ τ} (h : l.After l') (h' : l'.After l'') :
    l.After l'' :=
  ⟨h'.absent, h'.inside, h'.openings.trans h.openings, h'.spawnings.trans h.spawnings,
    h'.closed.trans h.closed, h.shared.trans h'.shared⟩

namespace Over

variable {l l' : LiveSession σ τ} {c c' : Call τ} {calls others : List (Call τ)}

theorem perm (h : Over l calls) (same : calls.Perm others) : Over l others :=
  ⟨h.phase, h.absent, fun c member => h.settled c (same.mem_iff.mpr member)⟩

theorem call_step (h : Over l (c :: others)) (stepped : c.step l = some (l', c')) :
    Over l' (c' :: others) := by
  have begun : l.session.phase ≠ .idle := by rw [h.phase]; decide
  have phase := Call.step_phase stepped
  rw [h.phase] at phase
  obtain ⟨settled, absent, _⟩ :=
    Call.step_settled stepped (h.settled c List.mem_cons_self) begun h.absent
  refine ⟨Phase.eq_stopped_of_leads phase, absent, fun d member => ?_⟩
  rcases List.mem_cons.mp member with rfl | other
  · exact settled
  · exact h.settled d (List.mem_cons_of_mem _ other)

theorem begin_call (h : Over l calls) (new : c = .startLock ∨ c = .stopMark) :
    Over l (c :: calls) := by
  refine ⟨h.phase, h.absent, fun d member => ?_⟩
  rcases List.mem_cons.mp member with rfl | other
  · rcases new with rfl | rfl <;> rfl
  · exact h.settled d other

theorem acted (h : Over l l.calls) (orderly : Orderly l l.calls) (acted : l.Acted l') :
    Over l' l'.calls ∧ l.After l' := by
  have outside := orderly.outside h.absent
  cases acted with
  | producer produced =>
    have absent := h.absent
    cases produced with
    | turn on | close on | work on | succeed on | broke on =>
      rw [absent] at on
      cases on
  | beginCall new now =>
    have begun := (h.begin_call new).perm now.symm
    exact ⟨⟨begun.phase, begun.absent, begun.settled⟩, h.absent, outside, rfl, rfl, rfl, .refl _⟩
  | call stepped was now =>
    have before := h.perm was
    have moved := (before.call_step stepped).perm now.symm
    have begun : l.session.phase ≠ .idle := by rw [h.phase]; decide
    obtain ⟨_, absent, openings, spawnings, _, closed⟩ :=
      Call.step_settled stepped (before.settled _ List.mem_cons_self) begun h.absent
    obtain ⟨shared, ingest, _⟩ := Call.step_frame stepped
    refine ⟨⟨moved.phase, moved.absent, moved.settled⟩, absent, ingest.trans outside, openings,
      spawnings, closed, ?_⟩
    exact shared ▸ .refl l.shared
  | beginTaking now =>
    exact ⟨⟨h.phase, h.absent, h.settled⟩, h.absent, outside, rfl, rfl, rfl, .refl _⟩
  | taking stepped was now =>
    have drained := Taking.step_drained stepped
    exact ⟨⟨h.phase, h.absent, h.settled⟩, h.absent, outside, rfl, rfl, rfl, drained⟩
  | edited stepped =>
    have drained := Edit.step_drained stepped
    exact ⟨⟨h.phase, h.absent, h.settled⟩, h.absent, outside, rfl, rfl, rfl, drained⟩
  | outside =>
    exact ⟨⟨h.phase, h.absent, h.settled⟩, h.absent, outside, rfl, rfl, rfl, .refl _⟩

-- A stop that holds the lock and finds neither a handle in store nor one in its hands knows that
-- there is none: another call that has it would hold the lock too.
theorem of_concluded (orderly : Orderly l (c :: others)) (concluded : c.concluded = true)
    (holds : c.holds = true) (handle : c.hasHandle = false) (stored : l.stored = false) :
    Over l (c :: others) := by
  obtain ⟨_, free⟩ := orderly.locked holds
  refine ⟨orderly.marked c List.mem_cons_self (Call.marked_of_concluded concluded), ?_, ?_⟩
  · have none : others.countP Call.hasHandle = 0 := by
      rw [List.countP_eq_zero]
      intro other member has
      have holdsToo := Call.holds_of_hasHandle has
      rw [free other member] at holdsToo
      cases holdsToo
    have balance := orderly.handle
    rw [countP_cons_toNat, none, handle, stored] at balance
    cases on : l.session.producer with
    | absent => rfl
    | active task stream frames => simp [on, Producer.present] at balance
    | ended clean => simp [on, Producer.present] at balance
  · intro d member
    rcases List.mem_cons.mp member with rfl | other
    · exact Call.underway_of_concluded concluded
    · by_contra underway
      have holdsToo := Call.holds_of_underway (Bool.not_eq_false _ ▸ underway)
      rw [free d other] at holdsToo
      cases holdsToo

theorem of_step (h : Orderly l (c :: others)) (stepped : c.step l = some (l', c'))
    (waiting : c.concluded = false) (concluded : c'.concluded = true) : Over l' (c' :: others) := by
  rcases Call.step_concluded stepped concluded with already | ⟨holds, handle, same, missing⟩
  · rw [waiting] at already
    cases already
  · have stored := same.trans (missing.elim id h.empty)
    exact of_concluded (h.call_step stepped) concluded holds handle stored

end Over

namespace LiveSession

variable {l l' : LiveSession σ τ}

/-- The invariant of a session: calls keep order, and a stop that has waited has seen the end. -/
structure Lawful (l : LiveSession σ τ) : Prop where
  orderly : Orderly l l.calls
  ended : ∀ c ∈ l.calls, c.concluded = true → Over l l.calls

theorem Lawful.start {s : Session σ τ} (fresh : s.Fresh) (world : σ) : (ofSession s world).Lawful :=
  ⟨Orderly.start fresh world, fun c member => by cases member⟩

theorem Lawful.acted (h : l.Lawful) (acted : l.Acted l') : l'.Lawful := by
  have orderly := h.orderly.acted acted
  refine ⟨orderly, fun c member concluded => ?_⟩
  by_cases already : ∃ d ∈ l.calls, d.concluded = true
  · obtain ⟨d, present, before⟩ := already
    exact ((h.ended d present before).acted h.orderly acted).1
  · have noneBefore : ∀ d ∈ l.calls, d.concluded = false := by
      intro d present
      by_contra before
      exact already ⟨d, present, Bool.not_eq_false _ ▸ before⟩
    -- the stop got there by this very step
    cases acted with
    | call stepped was now =>
      rcases List.mem_cons.mp (now.mem_iff.mp member) with rfl | other
      · have waiting := noneBefore _ (was.mem_iff.mpr List.mem_cons_self)
        have ended := Over.of_step (h.orderly.perm was) stepped waiting concluded
        have ended := ended.perm now.symm
        exact ⟨ended.phase, ended.absent, ended.settled⟩
      · rw [noneBefore c (was.mem_iff.mpr (List.mem_cons_of_mem _ other))] at concluded
        cases concluded
    | beginCall new now =>
      rcases List.mem_cons.mp (now.mem_iff.mp member) with rfl | old
      · rcases new with rfl | rfl <;> cases concluded
      · rw [noneBefore c old] at concluded
        cases concluded
    | producer produced =>
      rw [produced.frame.1] at member
      rw [noneBefore c member] at concluded
      cases concluded
    | beginTaking | taking | edited | outside =>
      rw [noneBefore c member] at concluded
      cases concluded

theorem Acted.phase (acted : l.Acted l') : l.session.phase.Leads l'.session.phase := by
  cases acted with
  | producer produced =>
    cases produced with
    | turn on outside captures moved =>
      rcases moved with same | stopped
      · rw [same]
        exact Phase.leads_refl _
      · rw [stopped]
        exact Phase.leads_stopped _
    | close | work | succeed | broke => exact Phase.leads_refl _
  | call stepped =>
    have phase := Call.step_phase stepped
    exact phase
  | beginCall | beginTaking | taking | edited | outside => exact Phase.leads_refl _

theorem Lawful.run {actions : List (LiveAction σ)} (h : l.Lawful) (ran : l.run actions = some l') :
    l'.Lawful :=
  holds_of_run (fun _ _ lawful acted => lawful.acted acted) h ran

theorem Lawful.after (h : l.Lawful) (ended : Over l l.calls) {later : List (LiveAction σ)}
    (ran : l.run later = some l') : l.After l' := by
  have start : l.Lawful ∧ Over l l.calls ∧ l.After l :=
    ⟨h, ended, ended.absent, h.orderly.outside ended.absent, rfl, rfl, rfl, .refl _⟩
  have kept : ∀ m m' : LiveSession σ τ, m.Lawful ∧ Over m m.calls ∧ l.After m → m.Acted m' →
      m'.Lawful ∧ Over m' m'.calls ∧ l.After m' := by
    intro m m' ⟨lawful, ended, after⟩ acted
    obtain ⟨endedNow, step⟩ := ended.acted lawful.orderly acted
    exact ⟨lawful.acted acted, endedNow, after.trans step⟩
  exact (holds_of_run kept start ran).2.2

theorem Lawful.closed_eq (h : l.Lawful) (ended : Over l l.calls) : l.closed = l.opened := by
  have none : l.calls.flatMap Call.streams = [] := by
    rw [List.flatMap_eq_nil_iff]
    intro c member
    have settled := ended.settled c member
    cases c <;> first | rfl | cases settled
  have streams := h.orderly.streams
  have few := h.orderly.opened
  have openings := h.orderly.openings
  have passed := h.orderly.passed_le
  rw [none, ended.absent] at streams
  simp only [Producer.streams, List.nil_append] at streams
  match opened : l.opened with
  | [] =>
    rw [opened] at streams
    exact List.nil_perm.mp streams
  | [stream] =>
    rw [opened] at streams
    exact (List.singleton_perm.mp streams).symm
  | _ :: _ :: _ =>
    rw [opened] at few
    simp only [List.length_cons] at few
    omega

theorem dequeue_resident {p : Packet} {rest : List Packet} (free : l.queueHeld = false)
    (resident : l.session.queue.queue.packets = p :: rest) :
    ∃ l', l.run (.beginTaking false :: List.replicate 4 (.take l.takings.length)) = some l' ∧
      l'.takings = l.takings ++ [.done [p]] ∧ l'.session.queue.queue.packets = rest := by
  have moved : ∀ t t' : Taking, (l.takings ++ [t]).set l.takings.length t' = l.takings ++ [t'] := by
    simp
  simp [run, step, List.replicate, moved, Taking.step, shared, withShared, free,
    SharedQueue.taken, SharedQueue.take, PacketQueue.take, resident, SharedQueue.count]

/-- Whatever calls are made and wherever the threads stand: the phase moves on and never back; one
start at most passes the transition, and the others are refused and change nothing; and when a stop
has returned the producer has ended, its stream was closed once, nothing comes in any more, and what
is resident leaves in order to those who take it. What is counted as opened and listed as closed is what
the backend was asked (`LiveSession.asked_of_run`). -/
theorem lifecycle_safe {config : Config} {backend : Backend σ τ} {before world : σ}
    {session : Session σ τ} {actions : List (LiveAction σ)}
    (made : (Session.create config backend before).value.1 = .ok (.ok session))
    (ran : (ofSession session world).run actions = some l) :
    (∀ action l', l.step action = some l' → l.session.phase.Leads l'.session.phase) ∧
    (l.calls.countP Call.passed ≤ 1 ∧ l.openings ≤ 1 ∧ l.spawnings ≤ 1 ∧
      (∀ result, .started false result ∈ l.calls → ∃ phase : Phase, phase ≠ .idle ∧
        result = .error (.invalidState phase.name Phase.capturing.name)) ∧
      ∀ (c c' : Call τ) (l' : LiveSession σ τ), c.step l = some (l', c') → c.starts = true →
        c'.passed = false → l' = { l with locked := l'.locked }) ∧
    (∀ (c c' : Call τ) (l' : LiveSession σ τ), c.step l = some (l', c') → l'.shared = l.shared) ∧
    ∀ result, .stopped result ∈ l.calls →
      l.session.phase = .stopped ∧ l.session.producer = .absent ∧ l.ingest = none ∧
      l.closed = l.opened ∧
      ∀ later l', l.run later = some l' → l.After l' ∧
        ∀ p rest, l'.queueHeld = false → l'.session.queue.queue.packets = p :: rest →
          ∃ l'', l'.run (.beginTaking false :: List.replicate 4 (.take l'.takings.length)) =
              some l'' ∧
            l''.takings = l'.takings ++ [.done [p]] ∧ l''.session.queue.queue.packets = rest := by
  have lawful : l.Lawful := (Lawful.start (Session.create_fresh made) world).run ran
  have orderly := lawful.orderly
  refine ⟨?_, ?_, ?_, ?_⟩
  · intro action l' stepped
    exact (acted_of_step stepped).phase
  · have passed := orderly.passed_le
    have openings := orderly.openings
    have opened := orderly.opened
    have spawnings := orderly.spawnings
    refine ⟨passed, by omega, by omega, ?_, ?_⟩
    · intro result refused
      exact orderly.refused _ refused result rfl
    · intro c c' l' stepped starts unpassed
      exact Call.eq_of_step_unpassed stepped starts unpassed
  · intro c c' l' stepped
    exact (Call.step_frame stepped).1
  · intro result returned
    have ended := lawful.ended _ returned rfl
    refine ⟨ended.phase, ended.absent, orderly.outside ended.absent, lawful.closed_eq ended, ?_⟩
    intro later l' ran
    exact ⟨lawful.after ended ran, fun p rest free resident => dequeue_resident free resident⟩

/-- Two starts and a stop of a capture of one frame: the stop waits for the producer, the other start
is refused, and the packet is still there. -/
theorem lifecycle_safe_of_two_starts :
    let actions : List (LiveAction Script) :=
      [.start, .start, .stop] ++ List.replicate 6 (.call 0) ++ List.replicate 12 .produce ++
        [.call 2, .call 1, .call 1, .call 1, .produce, .produce] ++ List.replicate 5 (.call 2)
    ∃ session l, (Session.create { capture := { interface := some (.name "eth0") } }
        (ScriptedHost.backend { interfaces := .ofList ["eth0"] }) {}).value.1 = .ok (.ok session) ∧
      (ofSession session { readings := [.frame [1, 2]] }).run actions = some l ∧
      l.calls = [.started true (.ok ()),
        .started false (.error (.invalidState "stopped" "capturing")), .stopped (.ok ())] ∧
      l.session.queue.queue.packets = [{ sequence := 0, data := [1, 2] }] ∧
      l.openings ≤ 1 ∧ l.spawnings ≤ 1 ∧ l.session.producer = .absent ∧ l.closed = l.opened ∧
      l.opened = [()] := by
  intro actions
  obtain ⟨session, made⟩ : ∃ session, (Session.create
      { capture := { interface := some (.name "eth0") } }
      (ScriptedHost.backend { interfaces := .ofList ["eth0"] }) {}).value.1 = .ok (.ok session) :=
    ⟨_, rfl⟩
  obtain ⟨l, ran⟩ :
      ∃ l, (ofSession session { readings := [.frame [1, 2]] }).run actions = some l := by
    cases made
    exact ⟨_, rfl⟩
  have calls : l.calls = [.started true (.ok ()),
      .started false (.error (.invalidState "stopped" "capturing")), .stopped (.ok ())] := by
    cases made
    cases ran
    rfl
  obtain ⟨_, ⟨_, openings, spawnings, _⟩, _, stopped⟩ := lifecycle_safe made ran
  obtain ⟨_, absent, _, closed, _⟩ := stopped (.ok ()) (by simp [calls])
  refine ⟨session, l, made, ran, calls, ?_, openings, spawnings, absent, closed, ?_⟩
  all_goals
    cases made
    cases ran
    rfl

end LiveSession
end CaptureQueue
