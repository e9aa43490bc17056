import CaptureQueue.Proofs.Session.Failure

/-! How a capture that nobody stops comes to its end. A failure is kept, then the session turns to
stopped, and only after that the stream is closed: whoever sees the session stopped in between sees
a stream that is still open, and its closing is the next thing that the producer does. -/

set_option autoImplicit false
namespace CaptureQueue

variable {σ τ : Type}

def Call.Clear (l : LiveSession σ τ) : Call τ → Prop
  | .startOpen | .startFail _ | .startSpawn _ =>
    l.session.phase = .capturing ∧ l.session.producer = .absent
  | _ => True

namespace Call

variable {l l' : LiveSession σ τ} {c c' : Call τ}

theorem Clear.of_free (free : c.holds = false) : c.Clear l := by
  cases c <;> trivial

theorem Clear.of_eq (h : c.Clear l) (phase : l'.session.phase = l.session.phase)
    (producer : l'.session.producer = l.session.producer) : c.Clear l' := by
  cases c with
  | startOpen | startFail | startSpawn => exact ⟨phase.trans h.1, producer.trans h.2⟩
  | _ => trivial

theorem Clear.of_present (h : c.Clear l) (present : l.session.producer ≠ .absent) : c.Clear l' := by
  cases c with
  | startOpen | startFail | startSpawn => exact absurd h.2 present
  | _ => trivial

theorem marked_of_step (stepped : c.step l = some (l', c')) (marked : c.marked = true) :
    c'.marked = true := by
  cases called_of_step stepped with
  | stopLock | stopTake | stopMissed | stopJoin | stopUnlock | stopReport => rfl
  | _ => cases marked

end Call

namespace LiveSession

variable {l l' : LiveSession σ τ}

def Unattended (l : LiveSession σ τ) : Prop := ∀ c ∈ l.calls, c.marked = false

theorem Unattended.before {action : LiveAction σ} (h : l'.Unattended)
    (stepped : l.step action = some l') : l.Unattended := by
  intro c member
  obtain ⟨index, found⟩ := List.getElem?_of_mem member
  rcases call_of_step stepped found with same | ⟨after, c', moved, _, now⟩
  · exact h c (List.mem_of_getElem? same)
  · by_contra marked
    have still := Call.marked_of_step moved (Bool.not_eq_false _ ▸ marked)
    rw [h c' (List.mem_of_getElem? now)] at still
    cases still

/-- How far the producer has come on the way from the start to the closed stream. -/
def Course (l : LiveSession σ τ) : Prop :=
  match l.session.producer with
  | .absent => l.closed = []
  | .active task _ _ => l.closed = [] ∧
    match task with
    | .close => l.session.phase = .stopped ∧ l.session.failure ≠ none
    | .halt => l.session.phase = .capturing ∧ l.session.failure ≠ none
    | _ => l.session.phase = .capturing
  | .ended _ => l.session.phase = .stopped ∧ l.session.failure ≠ none ∧ l.closed ≠ []

theorem Course.of_eq (h : l.Course) (phase : l'.session.phase = l.session.phase)
    (producer : l'.session.producer = l.session.producer)
    (failure : l'.session.failure = l.session.failure) (closed : l'.closed = l.closed) :
    l'.Course := by
  unfold Course at h ⊢
  rw [producer, phase, failure, closed]
  exact h

theorem Course.of_absent (h : l.Course) (absent : l.session.producer = .absent)
    (still : l'.session.producer = .absent) (closed : l'.closed = l.closed) : l'.Course := by
  unfold Course at h ⊢
  rw [absent] at h
  rw [still]
  exact closed.trans h

theorem Course.absent_of_idle (h : l.Course) (idle : l.session.phase = .idle) :
    l.session.producer = .absent := by
  unfold Course at h
  cases on : l.session.producer with
  | absent => rfl
  | active task stream frames =>
    rw [on, idle] at h
    cases task <;> simp at h
  | ended clean =>
    rw [on, idle] at h
    cases h.1

theorem Course.produce (h : l.Course) (stepped : l.produce = some l') : l'.Course := by
  unfold LiveSession.produce at stepped
  unfold Course at h
  cases on : l.session.producer with
  | absent | ended => simp [on] at stepped
  | active task stream frames =>
    rw [on] at stepped h
    obtain ⟨unclosed, phase⟩ := h
    cases task with
    | poll =>
      cases stepped
      rw [errand_poll on, if_pos phase]
      exact ⟨unclosed, phase⟩
    | read =>
      cases stepped
      rw [errand_read on]
      cases reading : (l.session.backend.read stream l.world).value.1 with
      | frame data | idle | failed e | broken fault => exact ⟨unclosed, phase⟩
    | ingest data =>
      simp only at stepped
      split at stepped
      case h_1 | h_2 =>
        cases stepped
        exact ⟨unclosed, phase⟩
      case h_3 =>
        simp only [bind, Option.bind_eq_some_iff] at stepped
        obtain ⟨⟨s, i⟩, _, same⟩ := stepped
        cases same
        simp only [Course, withShared, on]
        exact ⟨unclosed, phase⟩
    | fail e =>
      cases stepped
      rw [errand_fail on]
      exact ⟨unclosed, phase, Option.some_ne_none e⟩
    | halt =>
      cases stepped
      rw [errand_halt on]
      exact ⟨unclosed, rfl, phase.2⟩
    | close =>
      cases stepped
      rw [errand_end on]
      exact ⟨phase.1, phase.2, List.append_ne_nil_of_right_ne_nil _ (List.cons_ne_nil _ _)⟩

theorem Course.call_step {c c' : Call τ} (h : l.Course) (clear : c.Clear l)
    (stepped : c.step l = some (l', c')) (unmarked : c'.marked = false) :
    l'.Course ∧ c'.Clear l' := by
  cases Call.called_of_step stepped with
  | startMove idle =>
    have absent := h.absent_of_idle idle
    exact ⟨h.of_absent absent absent rfl, rfl, absent⟩
  | startUnopened | startOpened => exact ⟨h.of_eq rfl rfl rfl rfl, clear⟩
  | startFail => exact ⟨h.of_absent clear.2 clear.2 rfl, trivial⟩
  | startSpawn =>
    obtain ⟨capturing, absent⟩ := clear
    unfold Course at h
    rw [absent] at h
    exact ⟨⟨h, capturing⟩, trivial⟩
  | stopMark | stopLock | stopTake | stopMissed | stopJoin | stopUnlock | stopReport => cases unmarked
  | startLock | startRefused | startStore | startUnlock => exact ⟨h.of_eq rfl rfl rfl rfl, trivial⟩

structure OnCourse (l : LiveSession σ τ) : Prop where
  clear : ∀ c ∈ l.calls, c.Clear l
  course : l.Course

namespace OnCourse

theorem start {s : Session σ τ} (fresh : s.Fresh) (world : σ) : (ofSession s world).OnCourse := by
  refine ⟨?_, ?_⟩
  · intro c member
    cases member
  · unfold Course
    rw [show (ofSession s world).session.producer = .absent from fresh.producer]
    rfl

theorem of_eq (h : l.OnCourse) (calls : ∀ c ∈ l'.calls, c ∈ l.calls ∨ c.holds = false)
    (phase : l'.session.phase = l.session.phase)
    (producer : l'.session.producer = l.session.producer)
    (failure : l'.session.failure = l.session.failure) (closed : l'.closed = l.closed) :
    l'.OnCourse := by
  refine ⟨fun c member => ?_, h.course.of_eq phase producer failure closed⟩
  rcases calls c member with old | free
  · exact (h.clear c old).of_eq phase producer
  · exact .of_free free

theorem step {action : LiveAction σ} (h : l.OnCourse) (lawful : l.Lawful) (nobody : l'.Unattended)
    (stepped : l.step action = some l') : l'.OnCourse := by
  cases action with
  | produce =>
    refine ⟨?_, h.course.produce stepped⟩
    rw [(produced_of_produce stepped).frame.1]
    intro c member
    refine (h.clear c member).of_present fun absent => ?_
    simp [LiveSession.step, LiveSession.produce, absent] at stepped
  | start | stop =>
    cases stepped
    refine h.of_eq (fun c member => ?_) rfl rfl rfl rfl
    rcases List.mem_append.mp member with old | new
    · exact .inl old
    · rw [List.mem_singleton.mp new]
      exact .inr rfl
  | call index =>
    obtain ⟨c, c', others, after, calls, moved, rfl, was, now⟩ := exists_call stepped
    have unmarked := nobody c' (now.mem_iff.mpr List.mem_cons_self)
    obtain ⟨course, clear⟩ :=
      h.course.call_step (h.clear c (was.mem_iff.mpr List.mem_cons_self)) moved unmarked
    refine ⟨fun d member => ?_, course.of_eq rfl rfl rfl rfl⟩
    rcases List.mem_cons.mp (now.mem_iff.mp member) with rfl | other
    · exact clear.of_eq rfl rfl
    · by_cases holds : c.holds = true
      · exact .of_free (((lawful.orderly.perm was).locked holds).2 d other)
      · have before := h.clear d (was.mem_iff.mpr (List.mem_cons_of_mem _ other))
        cases Call.called_of_step moved with
        | startLock => exact before.of_eq rfl rfl
        | stopMark | stopLock | stopReport => cases unmarked
        | _ => exact absurd rfl holds
  | beginTaking | outside =>
    cases stepped
    exact h.of_eq (fun c member => .inl member) rfl rfl rfl rfl
  | take index =>
    simp only [LiveSession.step, bind, Option.bind_eq_some_iff] at stepped
    obtain ⟨t, _, ⟨s, t'⟩, _, same⟩ := stepped
    cases same
    exact h.of_eq (fun c member => .inl member) rfl rfl rfl rfl
  | edit e =>
    simp only [LiveSession.step, bind, Option.bind_eq_some_iff] at stepped
    obtain ⟨s, _, same⟩ := stepped
    cases same
    exact h.of_eq (fun c member => .inl member) rfl rfl rfl rfl

theorem run {actions : List (LiveAction σ)} (h : l.OnCourse) (lawful : l.Lawful)
    (ran : l.run actions = some l') (nobody : l'.Unattended) : l'.OnCourse := by
  have kept : ∀ (m : LiveSession σ τ) action m', (m.Lawful ∧ (m.Unattended → m.OnCourse)) →
      m.step action = some m' → m'.Lawful ∧ (m'.Unattended → m'.OnCourse) := by
    rintro m action m' ⟨lawful, held⟩ stepped
    exact ⟨lawful.acted (acted_of_step stepped),
      fun nobody => (held (nobody.before stepped)).step lawful nobody stepped⟩
  exact (holds_of_steps kept ⟨lawful, fun _ => h⟩ ran).2 nobody

end OnCourse

-- While there is a producer no start has a stream in its hands.
theorem Lawful.opened_perm (h : l.Lawful) (present : l.session.producer ≠ .absent) :
    l.opened.Perm (l.session.producer.streams ++ l.closed) := by
  have none : l.calls.flatMap Call.streams = [] := by
    rw [List.flatMap_eq_nil_iff]
    intro c member
    by_contra opened
    obtain ⟨index, found⟩ := List.getElem?_of_mem member
    obtain ⟨others, was, _⟩ := exists_others found
    exact present ((h.orderly.perm was).alone opened).2
  have streams := h.orderly.streams
  rw [none, List.nil_append] at streams
  exact streams

theorem Lawful.opened_length (h : l.Lawful) : l.opened.length ≤ 1 := by
  have opened := h.orderly.opened
  have openings := h.orderly.openings
  have passed := h.orderly.passed_le
  omega

-- A start that has a stream in its hands would be on its way in a session that captures.
theorem OnCourse.opened_eq_nil (h : l.OnCourse) (lawful : l.Lawful)
    (stopped : l.session.phase = .stopped) (absent : l.session.producer = .absent) :
    l.opened = [] := by
  have none : l.calls.flatMap Call.streams = [] := by
    rw [List.flatMap_eq_nil_iff]
    intro c member
    have clear := h.clear c member
    cases c with
    | startSpawn stream => cases stopped.symm.trans clear.1
    | _ => rfl
  have unclosed : l.closed = [] := by
    have course := h.course
    unfold Course at course
    rw [absent] at course
    exact course
  have streams := lawful.orderly.streams
  rw [none, absent, unclosed] at streams
  exact List.perm_nil.mp streams

/-- A session that is stopped, though by no call, has opened no stream, or has met a failure and is
through with the stream but for its closing: the producer closes it with its next step, or has
closed it (and `LiveSession.asked_of_run` says that the backend was asked to). -/
theorem close_follows_failure {config : Config} {backend : Backend σ τ} {before world : σ}
    {session : Session σ τ} {actions : List (LiveAction σ)}
    (made : (Session.create config backend before).value.1 = .ok (.ok session))
    (ran : (ofSession session world).run actions = some l) (nobody : l.Unattended)
    (stopped : l.session.phase = .stopped) :
    l.session.producer = .absent ∧ l.opened = [] ∨
    ∃ stream, l.opened = [stream] ∧ l.session.failure ≠ none ∧
      ((∃ frames, l.session.producer = .active .close stream frames) ∧ l.closed = [] ∧
          (∃ l', l.step .produce = some l' ∧ l'.closed = [stream]) ∨
        (∃ clean, l.session.producer = .ended clean) ∧ l.closed = [stream]) := by
  have fresh := Session.create_fresh made
  have first := Lawful.start fresh world
  have lawful : l.Lawful := first.run ran
  have held : l.OnCourse := (OnCourse.start fresh world).run first ran nobody
  have course := held.course
  unfold Course at course
  cases on : l.session.producer with
  | absent => exact .inl ⟨rfl, held.opened_eq_nil lawful stopped on⟩
  | active task stream frames =>
    have opened := lawful.opened_perm (by simp [on])
    rw [on] at course opened
    obtain ⟨unclosed, course⟩ := course
    rw [unclosed] at opened
    cases task with
    | close =>
      refine .inr ⟨stream, List.perm_singleton.mp opened, course.2, .inl ⟨⟨frames, rfl⟩, unclosed, ?_⟩⟩
      exact ⟨{ l.errand with closed := l.closed ++ [stream] },
        by simp [LiveSession.step, LiveSession.produce, on], by simp [unclosed]⟩
    | halt => cases stopped.symm.trans course.1
    | poll | read | ingest | fail => cases stopped.symm.trans course
  | ended clean =>
    have opened := lawful.opened_perm (by simp [on])
    have one := lawful.opened_length
    rw [on] at course opened
    simp only [Producer.streams, List.nil_append] at opened
    obtain ⟨_, kept, closed⟩ := course
    obtain ⟨stream, only⟩ : ∃ stream, l.closed = [stream] := by
      apply List.length_eq_one_iff.mp
      have some := List.length_pos_iff.mpr closed
      have same := opened.length_eq
      omega
    rw [only] at opened
    exact .inr ⟨stream, List.perm_singleton.mp opened, kept, .inr ⟨⟨clean, rfl⟩, only⟩⟩

-- The start comes to its end; the producer polls, reads, keeps the failure and halts.
theorem exists_stopped_unclosed :
    let actions : List (LiveAction Script) :=
      [.start] ++ List.replicate 6 (.call 0) ++ List.replicate 4 .produce
    ∃ session l, (Session.create { capture := { interface := some (.name "eth0") } }
        (ScriptedHost.backend { interfaces := .ofList ["eth0"] }) {}).value.1 = .ok (.ok session) ∧
      (ofSession session { readings := [.broken (.ofText "driver bug")] }).run actions = some l ∧
      l.session.phase = .stopped ∧
      l.session.failure = some (.sourceFailure "producer thread panicked: driver bug") ∧
      l.closed = [] ∧ l.opened = [()] ∧ l.calls.map Call.marked = [false] := by
  intro actions
  obtain ⟨session, made⟩ : ∃ session, (Session.create
      { capture := { interface := some (.name "eth0") } }
      (ScriptedHost.backend { interfaces := .ofList ["eth0"] }) {}).value.1 = .ok (.ok session) :=
    ⟨_, rfl⟩
  obtain ⟨l, ran, now⟩ : ∃ l,
      (ofSession session { readings := [.broken (.ofText "driver bug")] }).run actions = some l ∧
      ((l.session.phase, l.session.failure), l.closed, l.opened, l.calls.map Call.marked) =
        ((.stopped, some (.sourceFailure "producer thread panicked: driver bug")), [], [()], [false]) := by
    rw [← Option.map_eq_some_iff]
    cases made
    decide +kernel
  simp only [Prod.mk.injEq] at now
  obtain ⟨⟨stopped, kept⟩, unclosed, opened, unmarked⟩ := now
  exact ⟨session, l, made, ran, stopped, kept, unclosed, opened, unmarked⟩

/-- A source that breaks at the first read: the session is stopped while its stream is open, and the
next step closes it. -/
theorem close_follows_failure_of_break :
    let actions : List (LiveAction Script) :=
      [.start] ++ List.replicate 6 (.call 0) ++ List.replicate 4 .produce
    ∃ session l l', (Session.create { capture := { interface := some (.name "eth0") } }
        (ScriptedHost.backend { interfaces := .ofList ["eth0"] }) {}).value.1 = .ok (.ok session) ∧
      (ofSession session { readings := [.broken (.ofText "driver bug")] }).run actions = some l ∧
      l.Unattended ∧ l.session.phase = .stopped ∧ l.session.failure ≠ none ∧ l.opened = [()] ∧
      l.closed = [] ∧ l.step .produce = some l' ∧ l'.closed = [()] := by
  obtain ⟨session, l, made, ran, stopped, kept, unclosed, opened, unmarked⟩ := exists_stopped_unclosed
  have nobody : l.Unattended := by
    intro c member
    have mark := List.mem_map_of_mem (f := Call.marked) member
    rw [unmarked] at mark
    exact List.mem_singleton.mp mark
  rcases close_follows_failure made ran nobody stopped with ⟨_, none⟩ | ⟨_, _, kept, rest⟩
  · cases opened.symm.trans none
  · rcases rest with ⟨_, _, l', stepped, closed⟩ | ⟨_, closed⟩
    · exact ⟨session, l, l', made, ran, nobody, stopped, kept, opened, unclosed, stepped, closed⟩
    · cases unclosed.symm.trans closed

/-- It is not so that a session stopped by a failure, and by no call, has closed its stream. -/
theorem stopped_before_close :
    ¬ ∀ (config : Config) (host : ScriptedHost) (before world : Script)
        (session : Session Script Unit) (actions : List (LiveAction Script))
        (l : LiveSession Script Unit),
      (Session.create config host.backend before).value.1 = .ok (.ok session) →
      (ofSession session world).run actions = some l → (∀ action ∈ actions, action ≠ .stop) →
      l.session.phase = .stopped → l.session.failure ≠ none → l.closed = l.opened := by
  intro claim
  obtain ⟨session, l, made, ran, stopped, kept, unclosed, opened, _⟩ := exists_stopped_unclosed
  have closed := claim _ _ _ _ session _ l made ran (by simp) stopped (by simp [kept])
  rw [unclosed, opened] at closed
  cases closed

end LiveSession
end CaptureQueue
