import CaptureQueue.Proofs.Session.Fates

/-! A session that is used as the program uses it, one call or one turn of its producer after another.
Each of them is some steps of a session among threads, with the same session, world and log, so that
whatever holds of all runs of single steps holds of what is executed. -/

set_option autoImplicit false
namespace CaptureQueue

variable {σ τ : Type}

/-! ## What is executed -/

/-- What a session, its world and the log of its producer may have come to. A stop returns once the
producer has ended (`Session.settle_ends`). -/
inductive Session.Executed (first : Session σ τ) (before : σ) :
    Session σ τ → σ → List LogRecord → Prop where
  | begin : Executed first before first before []
  | start {s : Session σ τ} {world : σ} {log : List LogRecord} (so : Executed first before s world log) :
      Executed first before (s.start world).value.1.1 (s.start world).value.2 log
  | produce {s : Session σ τ} {world : σ} {log : List LogRecord}
      (so : Executed first before s world log) :
      Executed first before (s.produce world).value.1 (s.produce world).value.2
        (log ++ ((s.produce world).onThread .producer).records)
  | stop {s : Session σ τ} {world : σ} {log : List LogRecord} (so : Executed first before s world log)
      (ended : ∀ task stream frames,
        (s.requestStop.settle world).value.1.producer ≠ .active task stream frames) :
      Executed first before (s.stop world).value.1.1 (s.stop world).value.2
        (log ++ (s.requestStop.settle world).records)
  | dequeue {s : Session σ τ} {world : σ} {log : List LogRecord}
      (so : Executed first before s world log) : Executed first before s.dequeue.value.1 world log
  | drain {s : Session σ τ} {world : σ} {log : List LogRecord}
      (so : Executed first before s world log) : Executed first before s.drain.1 world log
  | addFilter {s : Session σ τ} {world : σ} {log : List LogRecord} (p : Predicate)
      (so : Executed first before s world log) :
      Executed first before (s.addFilter p).value.1 world log
  | removeFilter {s : Session σ τ} {world : σ} {log : List LogRecord} (id : FilterId)
      (so : Executed first before s world log) :
      Executed first before (s.removeFilter id).value.1 world log
  | setStrategy {s : Session σ τ} {world : σ} {log : List LogRecord} (strategy : DropStrategy)
      (so : Executed first before s world log) :
      Executed first before (s.setStrategy strategy).value world log
  | outside {s : Session σ τ} {world : σ} {log : List LogRecord} (later : σ)
      (so : Executed first before s world log) : Executed first before s later log

theorem Session.settleWithin_succ (fuel : Nat) (s : Session σ τ) (world : σ) :
    let done := (s.produce world).onThread .producer
    settleWithin (fuel + 1) s world =
      if s.rests done.value.1 done.value.2 then done
      else ⟨(settleWithin fuel done.value.1 done.value.2).value,
        done.records ++ (settleWithin fuel done.value.1 done.value.2).records⟩ := by
  intro done
  have all : settleWithin (fuel + 1) s world = done >>= fun after =>
      (if s.rests after.1 after.2 then pure after.1 else settleWithin fuel after.1 : Act σ _)
        after.2 := rfl
  rw [all]
  simp only [bind, Traced.bind]
  split
  · exact congrArg (Traced.mk done.value) (List.append_nil _)
  · rfl

/-! ## The end of a producer -/

def Producer.isReading : Producer τ → Bool
  | .active .read _ _ => true
  | _ => false

/-- Steps to the end of a producer that was told to stop. -/
def Producer.stepsLeft : Producer τ → Nat
  | .active (.ingest _) _ _ => 4
  | .active (.fail _) _ _ => 3
  | .active .poll _ _ | .active .halt _ _ => 2
  | .active .close _ _ | .active .read _ _ => 1
  | .absent | .ended _ => 0

theorem Producer.stepsLeft_le (p : Producer τ) : p.stepsLeft ≤ 4 := by
  cases p with
  | absent | ended => exact Nat.zero_le 4
  | active task stream frames => cases task <;> simp [stepsLeft]

namespace Session

variable {s : Session σ τ}

theorem produce_stopped (stopped : s.phase = .stopped) (away : s.producer.isReading = false)
    (world : σ) :
    let after := (s.produce world).value.1
    after.phase = .stopped ∧ after.producer.isReading = false ∧
      after.producer.stepsLeft ≤ s.producer.stepsLeft - 1 := by
  cases on : s.producer with
  | absent | ended =>
    have same : (s.produce world).value.1 = s := by
      simp only [produce, on]
      rfl
    simp only [same, on]
    exact ⟨stopped, rfl, Nat.le_refl _⟩
  | active task stream frames =>
    cases task with
    | read =>
      rw [on] at away
      cases away
    | poll =>
      have turned : (s.produce world).value.1 =
          { s with producer := .active .close stream frames } := by
        simp only [produce, on, stopped, reduceCtorEq, if_false]
        rfl
      simp only [turned]
      exact ⟨stopped, rfl, Nat.le_refl _⟩
    | ingest data =>
      obtain ⟨_, _, same, -⟩ := s.ingest_frame frames data
      rw [produce_ingest on, same]
      refine ⟨stopped, ?_⟩
      cases (s.ingest frames data).value.2 with
      | ok _ => exact ⟨rfl, Nat.le_succ _⟩
      | error _ => exact ⟨rfl, Nat.le_refl _⟩
    | fail e =>
      have turned : (s.produce world).value.1 =
          { s with failure := some e, producer := .active .halt stream frames } := by
        simp only [produce, on]
        rfl
      simp only [turned]
      exact ⟨stopped, rfl, Nat.le_refl _⟩
    | halt =>
      have turned : (s.produce world).value.1 =
          { s with phase := .stopped, producer := .active .close stream frames } := by
        simp only [produce, on]
        rfl
      simp only [turned, true_and]
      exact ⟨rfl, Nat.le_refl _⟩
    | close =>
      simp only [produce, on, Act.value_bind]
      obtain ⟨_, outcome⟩ := (s.backend.close stream world).value.1
      cases outcome <;> exact ⟨stopped, rfl, Nat.le_refl _⟩

theorem settleWithin_ends {world : σ} {fuel : Nat} (stopped : s.phase = .stopped)
    (away : s.producer.isReading = false) (enough : s.producer.stepsLeft ≤ fuel)
    (task : ProducerTask) (stream : τ) (frames : Nat) :
    (settleWithin fuel s world).value.1.producer ≠ .active task stream frames := by
  induction fuel generalizing s world with
  | zero =>
    intro on
    have on : s.producer = .active task stream frames := on
    rw [on] at enough
    cases task <;> simp [Producer.stepsLeft] at enough
  | succ fuel ih =>
    obtain ⟨later, still, fewer⟩ := produce_stopped stopped away world
    rw [settleWithin_succ]
    split
    case isFalse =>
      have left := Nat.le_trans fewer (Nat.sub_le_of_le_add enough)
      exact ih later still left
    case isTrue rested =>
      intro on
      unfold rests at rested
      split at rested
      case h_1 reads _ =>
        rw [reads] at away
        cases away
      case h_2 => cases rested
      case h_3 through _ => exact through _ _ _ on

/-- A producer that was told to stop comes to its end, unless it was about to read. -/
theorem settle_ends (away : s.producer.isReading = false) (world : σ) (task : ProducerTask)
    (stream : τ) (frames : Nat) :
    (s.requestStop.settle world).value.1.producer ≠ .active task stream frames := by
  have enough : s.producer.stepsLeft ≤ 3 * s.backend.pending world + 8 :=
    Nat.le_trans s.producer.stepsLeft_le (by omega)
  have stopped : s.requestStop.phase = .stopped := rfl
  exact settleWithin_ends stopped away enough task stream frames

end Session

namespace LoggedSession

/-! ## Several steps -/

def Reaches (l l' : LoggedSession σ τ) : Prop := ∃ actions, l.run actions = some l'

namespace Reaches

variable {l l' l'' : LoggedSession σ τ}

theorem refl (l : LoggedSession σ τ) : l.Reaches l := ⟨[], rfl⟩

theorem single (action : LiveAction σ) (stepped : l.step action = some l') : l.Reaches l' :=
  ⟨[action], by simp [run, stepped]⟩

theorem trans (h : l.Reaches l') (h' : l'.Reaches l'') : l.Reaches l'' := by
  obtain ⟨first, ran⟩ := h
  obtain ⟨second, ran'⟩ := h'
  refine ⟨first ++ second, ?_⟩
  simp only [run, List.foldlM_append] at ran ran' ⊢
  simp [ran, ran']

theorem lift {α : Type} {r : α → α → Prop} (whole : α → LoggedSession σ τ)
    (one : ∀ a b, r a b → (whole a).Reaches (whole b)) {a b : α}
    (work : Relation.ReflTransGen r a b) : (whole a).Reaches (whole b) := by
  induction work with
  | refl => exact .refl _
  | tail _ next ih => exact ih.trans (one _ _ next)

end Reaches

/-- The session is in the middle of nothing. -/
structure Resting (l : LoggedSession σ τ) : Prop where
  outside : l.live.ingest = none
  free : l.live.queueHeld = false
  unlocked : l.live.locked = false
  stored : l.live.stored = l.live.session.producer.present
  away : ∀ t ∈ l.live.takings, t.atQueue = false
  silent : l.telling.due = []

def Comes (l : LoggedSession σ τ) (s : Session σ τ) (world : σ) (records : List LogRecord) : Prop :=
  ∃ l', l.Reaches l' ∧ l'.Resting ∧ l'.live.session = s ∧ l'.live.world = world ∧
    l'.telling.log = l.telling.log ++ records

/-! ## Work that nobody interrupts -/

variable {l : LoggedSession σ τ}

theorem reaches_call {calls : List (Call τ)} {c c' : Call τ} {l' : LiveSession σ τ}
    (there : l.live.calls = calls ++ [c])
    (work : Relation.ReflTransGen Call.Next (l.live, c) (l', c')) :
    l.Reaches { l with live := { l' with calls := calls ++ [c'], takings := l.live.takings } } := by
  let whole (a : LiveSession σ τ × Call τ) : LoggedSession σ τ :=
    { l with live := { a.1 with calls := calls ++ [a.2], takings := l.live.takings } }
  have first : whole (l.live, c) = l := by
    simp only [whole, ← there]
  have through : (whole (l.live, c)).Reaches (whole (l', c')) := by
    refine .lift whole (fun a b next => .single (.call calls.length) ?_) work
    have moved := a.2.step_with a.1 (calls ++ [a.2]) l.live.takings
    rw [show a.2.step a.1 = some b from next] at moved
    simp only [step, LiveSession.step, whole, List.getElem?_concat_length, bind, Option.bind_some, moved]
    simp
  rw [first] at through
  exact through

theorem reaches_take {all : Bool} {s : SharedQueue} {packets : List Packet}
    (work : Relation.ReflTransGen Taking.Next (l.live.shared, .enter all) (s, .done packets)) :
    l.Reaches { l with
      live := { l.live.withShared s with takings := l.live.takings ++ [.done packets] } } := by
  let whole (a : SharedQueue × Taking) : LoggedSession σ τ :=
    { l with live := { l.live.withShared a.1 with takings := l.live.takings ++ [a.2] } }
  have begun : l.Reaches (whole (l.live.shared, .enter all)) := .single (.beginTaking all) rfl
  refine begun.trans (.lift whole (fun a b next => ?_) work)
  refine .single (.take l.live.takings.length) ?_
  have moved : a.2.step (l.live.withShared a.1).shared = some b := next
  have again : ({ l.live.withShared a.1 with takings := l.live.takings ++ [a.2] } :
      LiveSession σ τ).shared = (l.live.withShared a.1).shared := rfl
  simp only [step, LiveSession.step, whole, List.getElem?_concat_length, bind, Option.bind_some, again,
    moved]
  simp [LiveSession.withShared]

namespace Resting

/-! ## The owner's calls -/

theorem edit (h : l.Resting) (e : Edit) {s : SharedQueue} (stepped : e.step l.live.shared = some s)
    (held : s.held = false) : l.Comes (l.live.withShared s).session l.live.world [] := by
  refine ⟨{ l with live := l.live.withShared s }, .single (.edit e) ?_,
    ⟨h.outside, held, h.unlocked, h.stored, h.away, h.silent⟩, rfl, rfl, (List.append_nil _).symm⟩
  simp [step, LiveSession.step, stepped]

theorem take (h : l.Resting) {all : Bool} {s : SharedQueue} {packets : List Packet}
    (work : Relation.ReflTransGen Taking.Next (l.live.shared, .enter all) (s, .done packets))
    (held : s.held = false) : l.Comes (l.live.withShared s).session l.live.world [] := by
  refine ⟨_, reaches_take work, ⟨h.outside, held, h.unlocked, h.stored, fun t member => ?_, h.silent⟩,
    rfl, rfl, (List.append_nil _).symm⟩
  rcases List.mem_append.mp member with old | new
  · exact h.away t old
  · rw [List.mem_singleton.mp new]
    rfl

theorem start (h : l.Resting) :
    l.Comes (l.live.session.start l.live.world).value.1.1
      (l.live.session.start l.live.world).value.2 [] := by
  let called : LoggedSession σ τ :=
    { l with live := { l.live with calls := l.live.calls ++ [.startLock] } }
  have begun : l.Reaches called := .single .start rfl
  obtain ⟨l', passed, work, session, world, unlocked, stored⟩ :=
    Call.start_alone called.live h.unlocked
  obtain ⟨shared, ingest⟩ := Call.frame_of_alone work
  exact ⟨_, begun.trans (reaches_call rfl work),
    ⟨ingest.trans h.outside, (congrArg SharedQueue.held shared).trans h.free, unlocked, stored h.stored,
      h.away, h.silent⟩, session, world, (List.append_nil _).symm⟩

end Resting

/-! ## The producer's turns -/

/-- The producer alone comes to that, and says that. -/
def Turns (l : LoggedSession σ τ) (done : Traced (Session σ τ × σ)) : Prop :=
  ∃ l', l.Reaches l' ∧ l'.Resting ∧ l'.live.calls = l.live.calls ∧
    (l'.live.session, l'.live.world) = done.value ∧ l'.telling.log = l.telling.log ++ done.records

theorem next_frame {a b : LoggedSession σ τ} (next : Next a b) :
    b.live.locked = a.live.locked ∧ b.live.stored = a.live.stored ∧ b.live.calls = a.live.calls ∧
      b.live.takings = a.live.takings ∧
      b.live.session.producer.present = a.live.session.producer.present := by
  obtain ⟨live, stepped, same⟩ := Option.bind_eq_some_iff.mp next
  cases same
  cases LiveSession.produced_of_produce stepped with
  | turn on | close on | work on | succeed on | broke on =>
    exact ⟨rfl, rfl, rfl, rfl, by simp [on, Producer.present, LiveSession.withShared]⟩

theorem frame_of_alone {a b : LoggedSession σ τ} (path : Relation.ReflTransGen Next a b) :
    b.live.locked = a.live.locked ∧ b.live.stored = a.live.stored ∧ b.live.calls = a.live.calls ∧
      b.live.takings = a.live.takings ∧
      b.live.session.producer.present = a.live.session.producer.present := by
  induction path with
  | refl => exact ⟨rfl, rfl, rfl, rfl, rfl⟩
  | tail _ next ih =>
    obtain ⟨locked, stored, calls, takings, present⟩ := next_frame next
    obtain ⟨locked', stored', calls', takings', present'⟩ := ih
    exact ⟨locked.trans locked', stored.trans stored', calls.trans calls', takings.trans takings',
      present.trans present'⟩

namespace Resting

theorem produce (h : l.Resting) :
    l.Turns ((l.live.session.produce l.live.world).onThread .producer) := by
  cases on : l.live.session.producer with
  | absent | ended =>
    have idle : l.live.session.produce l.live.world = ⟨(l.live.session, l.live.world), []⟩ := by
      simp only [Session.produce, on]
      rfl
    rw [idle]
    exact ⟨l, .refl l, h, rfl, rfl, (List.append_nil _).symm⟩
  | active task stream frames =>
    obtain ⟨l', path, same, outside, free, silent, log⟩ := produce_alone on h.outside h.free h.silent
    obtain ⟨locked, stored, calls, takings, present⟩ := frame_of_alone path
    refine ⟨l', .lift id (fun a b next => .single .produce next) path,
      ⟨outside, free, locked.trans h.unlocked, ?_, ?_, silent⟩, calls, same, log⟩
    · rw [stored, present]
      exact h.stored
    · rw [takings]
      exact h.away

theorem settleWithin (h : l.Resting) (fuel : Nat) :
    l.Turns (Session.settleWithin fuel l.live.session l.live.world) := by
  induction fuel generalizing l with
  | zero => exact ⟨l, .refl l, h, rfl, rfl, (List.append_nil _).symm⟩
  | succ fuel ih =>
    obtain ⟨l', steps, rests, calls, same, log⟩ := h.produce
    have session := congrArg Prod.fst same
    have world := congrArg Prod.snd same
    rw [Session.settleWithin_succ]
    dsimp only at session world ⊢
    split
    · exact ⟨l', steps, rests, calls, same, log⟩
    · rw [← session, ← world]
      obtain ⟨l'', steps', rests', calls', same', log'⟩ := ih rests
      refine ⟨l'', steps.trans steps', rests', calls'.trans calls, same', ?_⟩
      rw [log', log, List.append_assoc]

theorem stop (h : l.Resting)
    (ended : ∀ task stream frames, (l.live.session.requestStop.settle l.live.world).value.1.producer ≠
      .active task stream frames) :
    l.Comes (l.live.session.stop l.live.world).value.1.1 (l.live.session.stop l.live.world).value.2
      (l.live.session.requestStop.settle l.live.world).records := by
  let marked : LoggedSession σ τ :=
    { l with live := { l.live with calls := l.live.calls ++ [.stopMark] } }
  let asked : LoggedSession σ τ := { l with live := { l.live with
    session := l.live.session.requestStop
    calls := l.live.calls ++ [.stopLock] } }
  have mark : Call.Next (marked.live, .stopMark)
      ({ marked.live with session := l.live.session.requestStop }, .stopLock) := rfl
  have called : l.Reaches marked := .single .stop rfl
  have begun : l.Reaches asked := called.trans (reaches_call rfl (.single mark))
  have resting : asked.Resting := ⟨h.outside, h.free, h.unlocked, h.stored, h.away, h.silent⟩
  have settled : l.live.session.requestStop.settle l.live.world = Session.settleWithin
      (3 * l.live.session.backend.pending l.live.world + 8) asked.live.session asked.live.world := rfl
  obtain ⟨l', steps, rests, calls, same, log⟩ :=
    resting.settleWithin (3 * l.live.session.backend.pending l.live.world + 8)
  rw [← settled] at same log
  have session : l'.live.session = _ := congrArg Prod.fst same
  have world : l'.live.world = _ := congrArg Prod.snd same
  -- The producer is through, so that the stop does not wait for it any more.
  obtain ⟨l'', work, concluded, later, unlocked, stored⟩ :=
    Call.conclude_alone l'.live l.live.session.phase rests.unlocked rests.stored (by rwa [session])
  obtain ⟨shared, ingest⟩ := Call.frame_of_alone work
  refine ⟨_, begun.trans (steps.trans (reaches_call calls work)),
    ⟨ingest.trans rests.outside, (congrArg SharedQueue.held shared).trans rests.free, unlocked, stored,
      rests.away, rests.silent⟩, ?_, ?_, log⟩
  · rw [session] at concluded
    exact concluded
  · exact later.trans world

end Resting

theorem Comes.trans {s s' : Session σ τ} {world world' : σ} {log records : List LogRecord}
    (h : l.Comes s world log)
    (one : ∀ m : LoggedSession σ τ, m.Resting → m.live.session = s → m.live.world = world →
      m.Comes s' world' records) : l.Comes s' world' (log ++ records) := by
  obtain ⟨m, steps, rests, session, here, told⟩ := h
  obtain ⟨l', others, rests', session', here', told'⟩ := one m rests session here
  exact ⟨l', steps.trans others, rests', session', here', by rw [told', told, List.append_assoc]⟩

theorem Comes.call {s s' : Session σ τ} {world world' : σ} {log : List LogRecord}
    (h : l.Comes s world log)
    (one : ∀ m : LoggedSession σ τ, m.Resting → m.live.session = s → m.live.world = world →
      m.Comes s' world' []) : l.Comes s' world' log := by
  simpa using h.trans one

theorem comes_of_executed {first s : Session σ τ} {before world : σ} {log : List LogRecord}
    (fresh : first.producer = .absent) (so : first.Executed before s world log) :
    (ofSession first before).Comes s world log := by
  -- Between any two calls the session rests, so that each can be taken by itself.
  induction so with
  | begin =>
    refine ⟨_, .refl _, ⟨rfl, rfl, rfl, ?_, by simp [ofSession, LiveSession.ofSession], rfl⟩, rfl, rfl, rfl⟩
    simp [ofSession, LiveSession.ofSession, fresh, Producer.present]
  | start _ ih =>
    refine ih.call ?_
    rintro m h rfl rfl
    exact h.start
  | produce _ ih =>
    refine ih.trans ?_
    rintro m h rfl rfl
    obtain ⟨l', steps, rests, _, same, told⟩ := h.produce
    exact ⟨l', steps, rests, congrArg Prod.fst same, congrArg Prod.snd same, told⟩
  | stop _ ended ih =>
    refine ih.trans ?_
    rintro m h rfl rfl
    exact h.stop ended
  | dequeue _ ih =>
    refine ih.call ?_
    rintro m h rfl rfl
    obtain ⟨shared, work, held, filters, queue⟩ := Taking.dequeue_alone m.live.shared h.free
    have same : (m.live.withShared shared).session = m.live.session.dequeue.value.1 := by
      simp only [LiveSession.withShared, filters, queue]
      rfl
    exact same ▸ h.take work held
  | drain _ ih =>
    refine ih.call ?_
    rintro m h rfl rfl
    obtain ⟨shared, work, held, filters, queue⟩ := Taking.drain_alone m.live.shared h.free
    have same : (m.live.withShared shared).session = m.live.session.drain.1 := by
      simp only [LiveSession.withShared, filters, queue]
      rfl
    exact same ▸ h.take work held
  | addFilter p _ ih =>
    refine ih.call ?_
    rintro m h rfl rfl
    exact h.edit (.addFilter p) rfl h.free
  | removeFilter id _ ih =>
    refine ih.call ?_
    rintro m h rfl rfl
    have same : (m.live.session.removeFilter id).value.1 =
        { m.live.session with filters := (m.live.session.filters.remove id).1 } := by
      simp only [Session.removeFilter, bind, Traced.bind]
      split <;> rfl
    rw [same]
    exact h.edit (.removeFilter id) rfl h.free
  | setStrategy strategy _ ih =>
    refine ih.call ?_
    rintro m h rfl rfl
    exact h.edit (.setStrategy strategy) (if_neg (by simp [LiveSession.shared, h.free])) h.free
  | outside later _ ih =>
    refine ih.call ?_
    rintro m h rfl rfl
    exact ⟨_, .single (.outside later) rfl, ⟨h.outside, h.free, h.unlocked, h.stored, h.away, h.silent⟩,
      rfl, rfl, (List.append_nil _).symm⟩

theorem live_of_run {l' : LoggedSession σ τ} {actions : List (LiveAction σ)}
    (ran : l.run actions = some l') : l.live.run actions = some l'.live := by
  induction actions generalizing l with
  | nil =>
    cases ran
    rfl
  | cons action rest ih =>
    simp only [run, List.foldlM_cons, bind, Option.bind_eq_some_iff] at ran
    obtain ⟨next, stepped, ran⟩ := ran
    obtain ⟨live, moved, same⟩ := Option.bind_eq_some_iff.mp stepped
    cases same
    simp only [LiveSession.run, List.foldlM_cons, bind, moved, Option.bind_some]
    exact ih ran

/-- What is executed is a run among threads, with the same session, world and log, at whose end the
producer is outside its work on a frame and no consumer is at the queue. -/
theorem exists_run_of_executed {first s : Session σ τ} {before world : σ} {log : List LogRecord}
    (fresh : first.producer = .absent) (so : first.Executed before s world log) :
    ∃ actions l, (ofSession first before).run actions = some l ∧
      (LiveSession.ofSession first before).run actions = some l.live ∧
      l.live.session = s ∧ l.live.world = world ∧ l.telling.log = log ∧
      l.live.ingest = none ∧ ∀ t ∈ l.live.takings, t.atQueue = false := by
  obtain ⟨l, ⟨actions, ran⟩, rests, session, here, told⟩ := comes_of_executed fresh so
  exact ⟨actions, l, ran, live_of_run ran, session, here, told, rests.outside, rests.away⟩

end LoggedSession

/-! ## The accounts of what is executed -/

namespace Session.Executed

variable {config : Config} {backend : Backend σ τ} {earlier before world : σ} {first s : Session σ τ}
  {log : List LogRecord}

/-- The counters and the queue account for all packets, but for one that a predicate or the strategy
broke over. -/
theorem balance (made : (Session.create config backend earlier).value.1 = .ok (.ok first))
    (so : first.Executed before s world log) :
    let metrics := s.queue.metrics
    ∃ unjudged undecided, unjudged + undecided ≤ 1 ∧
      metrics.captured = metrics.filtered + metrics.enqueued + .ofNat unjudged ∧
      metrics.enqueued = .ofNat s.queue.queue.packets.length + metrics.dequeued + metrics.dropped +
        metrics.rejected + .ofNat undecided := by
  have fresh := Session.create_fresh made
  obtain ⟨actions, l, _, ran, rfl, _, _, outside, away⟩ :=
    LoggedSession.exists_run_of_executed fresh.producer so
  have accounted : l.live.Accounted := (LiveSession.Accounted.start fresh before).run ran
  obtain ⟨upstream, downstream, _⟩ := (accounted.booked.balanced outside).values_of_quiet away
  exact ⟨_, _, accounted.numbered.lost_le, upstream, downstream⟩

/-- The log has as many records of each outcome as the counters say. -/
theorem log_agrees (made : (Session.create config backend earlier).value.1 = .ok (.ok first))
    (reticent : backend.Reticent) (so : first.Executed before s world log) :
    let said (message : String) := UInt64.ofNat (log.countP (·.message = message))
    s.queue.metrics.filtered = said "Packet filtered" ∧
      s.queue.metrics.dropped = said "Queue full, packet dropped" ∧
      s.queue.metrics.rejected = said "Queue full, packet rejected" := by
  have fresh := Session.create_fresh made
  have reticent : first.backend.Reticent := by
    obtain ⟨_, _, _, rfl⟩ := Session.create_eq_ok made
    exact reticent
  obtain ⟨actions, l, ran, _, rfl, _, rfl, outside, _⟩ :=
    LoggedSession.exists_run_of_executed fresh.producer so
  have faithful : l.Faithful := (LoggedSession.Faithful.start fresh reticent before).run ran
  obtain ⟨filtered, dropped, rejected, _⟩ := faithful.counters outside
  exact ⟨filtered, dropped, rejected⟩

end Session.Executed
end CaptureQueue
