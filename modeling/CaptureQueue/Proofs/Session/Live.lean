import CaptureQueue.Proofs.Threads.Alone

/-! A session among threads: calls of start and stop in any number, the producer, consumers, and
changes of the filters and of the strategy, each told by its single steps. Log records are left
out. -/

set_option autoImplicit false
namespace CaptureQueue

/-- How far a call of start or of stop has come. The lock is that of the producer's handle, and a start
leaves having passed the transition or not. -/
inductive Call (τ : Type) where
  | startLock
  | startMove
  | startOpen
  | startFail (e : CaptureError)
  | startSpawn (stream : τ)
  | startStore
  | startUnlock (passed : Bool) (result : Except CaptureError Unit)
  | started (passed : Bool) (result : Except CaptureError Unit)
  | stopMark
  | stopLock
  | stopTake
  | stopJoin
  | stopUnlock
  | stopReport
  | stopped (result : Except CaptureError Unit)

/-- A session and the threads at work on it. The producer is at work on a frame in `ingest`; its handle
is `locked` by a call, and `stored`. -/
structure LiveSession (σ τ : Type) where
  session : Session σ τ
  world : σ
  ingest : Option Ingest := none
  queueHeld : Bool := false
  ledger : Ledger := {}
  locked : Bool := false
  stored : Bool := false
  calls : List (Call τ) := []
  takings : List Taking := []
  openings : Nat := 0
  spawnings : Nat := 0
  opened : List τ := []
  closed : List τ := []

inductive LiveAction (σ : Type) where
  | produce
  | start
  | stop
  | call (index : Nat)
  | beginTaking (all : Bool)
  | take (index : Nat)
  | edit (e : Edit)
  | outside (world : σ)

variable {σ τ : Type}

theorem Act.value_bind {α β : Type} (x : Act σ α) (f : α → Act σ β) (world : σ) :
    ((x >>= f) world).value = (f (x world).value.1 (x world).value.2).value := rfl

theorem Act.value_lift {α : Type} (x : Traced α) (world : σ) :
    ((liftM x : Act σ α) world).value = (x.value, world) := rfl

namespace LiveSession

def ofSession (session : Session σ τ) (world : σ) : LiveSession σ τ :=
  { session := session, world := world }

def shared (l : LiveSession σ τ) : SharedQueue :=
  { filters := l.session.filters, queue := l.session.queue, held := l.queueHeld, ledger := l.ledger }

def withShared (l : LiveSession σ τ) (s : SharedQueue) : LiveSession σ τ :=
  { l with
    session := { l.session with filters := s.filters, queue := s.queue }
    queueHeld := s.held
    ledger := s.ledger }

/-- A step of the producer that is no part of its work on a frame. -/
def errand (l : LiveSession σ τ) : LiveSession σ τ :=
  let after := (l.session.produce l.world).value
  { l with session := after.1, world := after.2 }

def produce (l : LiveSession σ τ) : Option (LiveSession σ τ) :=
  match l.session.producer with
  | .active (.ingest data) stream frames =>
    match l.ingest.getD (.capture { sequence := frames, data := data }) with
    | .done (.ok ()) => some { l with
        session := { l.session with producer := .active .poll stream (frames + 1) }
        ingest := none }
    | .done (.error fault) => some { l with
        session := { l.session with
          producer := .active (.fail (Session.brokenError fault)) stream frames }
        ingest := none }
    | i => do
      let (s, i) ← i.step l.shared
      return { l.withShared s with ingest := some i }
  | .active .close stream _ => some { l.errand with closed := l.closed ++ [stream] }
  | .active _ _ _ => some l.errand
  | _ => none

end LiveSession

/-- The next step of a call; none at the end, while another call holds the lock, or while the
producer is at work that the call waits for. -/
def Call.step (l : LiveSession σ τ) : Call τ → Option (LiveSession σ τ × Call τ)
  | .startLock => if l.locked then none else some ({ l with locked := true }, .startMove)
  | .startMove =>
    if l.session.phase = .idle then
      some ({ l with session := { l.session with phase := .capturing } }, .startOpen)
    else
      some (l, .startUnlock false
        (.error (.invalidState l.session.phase.name Phase.capturing.name)))
  | .startOpen =>
    match (l.session.backend.openOn l.session.interface l.session.options l.world).value with
    | (.error e, world) =>
      some ({ l with world := world, openings := l.openings + 1 }, .startFail e)
    | (.ok stream, world) =>
      some ({ l with
        world := world, openings := l.openings + 1, opened := l.opened ++ [stream] },
        .startSpawn stream)
  | .startFail e =>
    some ({ l with session := { l.session with phase := .stopped } }, .startUnlock true (.error e))
  | .startSpawn stream =>
    some ({ l with
      session := { l.session with producer := .active .poll stream 0 }
      spawnings := l.spawnings + 1 }, .startStore)
  | .startStore => some ({ l with stored := true }, .startUnlock true (.ok ()))
  | .startUnlock passed result => some ({ l with locked := false }, .started passed result)
  | .started _ _ => none
  | .stopMark => some ({ l with session := l.session.requestStop }, .stopLock)
  | .stopLock => if l.locked then none else some ({ l with locked := true }, .stopTake)
  | .stopTake =>
    if l.stored then some ({ l with stored := false }, .stopJoin) else some (l, .stopUnlock)
  | .stopJoin =>
    match l.session.producer with
    | .ended _ => some ({ l with session := l.session.join.value }, .stopUnlock)
    | _ => none
  | .stopUnlock => some ({ l with locked := false }, .stopReport)
  | .stopReport =>
    some ({ l with session := l.session.takeFailure.1 }, .stopped l.session.takeFailure.2)
  | .stopped _ => none

namespace LiveSession

def step (l : LiveSession σ τ) : LiveAction σ → Option (LiveSession σ τ)
  | .produce => l.produce
  | .start => some { l with calls := l.calls ++ [.startLock] }
  | .stop => some { l with calls := l.calls ++ [.stopMark] }
  | .call index => do
    let (l, c) ← (← l.calls[index]?).step l
    return { l with calls := l.calls.set index c }
  | .beginTaking all => some { l with takings := l.takings ++ [.enter all] }
  | .take index => do
    let (s, t) ← (← l.takings[index]?).step l.shared
    return { l.withShared s with takings := l.takings.set index t }
  | .edit e => do
    return l.withShared (← e.step l.shared)
  | .outside world => some { l with world := world }

def run (l : LiveSession σ τ) (actions : List (LiveAction σ)) : Option (LiveSession σ τ) :=
  actions.foldlM step l

end LiveSession

/-! ## Steps of the producer -/

def ProducerTask.captures : ProducerTask → Bool
  | .poll | .read | .ingest _ => true
  | _ => false

namespace LiveSession

inductive Produced (l : LiveSession σ τ) : LiveSession σ τ → Prop where
  | turn {task next : ProducerTask} {stream : τ} {frames : Nat} {phase : Phase}
      {failure : Option CaptureError} {world : σ}
      (on : l.session.producer = .active task stream frames) (outside : ∀ data, task ≠ .ingest data)
      (captures : next.captures = true → task.captures = true)
      (moved : phase = l.session.phase ∨ phase = .stopped) :
      Produced l { l with
        session := { l.session with
          producer := .active next stream frames, phase := phase, failure := failure }
        world := world }
  | close {stream : τ} {frames : Nat} {clean : Bool} {world : σ}
      (on : l.session.producer = .active .close stream frames) :
      Produced l { l with
        session := { l.session with producer := .ended clean }
        world := world
        closed := l.closed ++ [stream] }
  | work {data : Bytes} {stream : τ} {frames : Nat} {s : SharedQueue} {i : Ingest}
      (on : l.session.producer = .active (.ingest data) stream frames)
      (moved : (l.ingest.getD (.capture { sequence := frames, data := data })).step l.shared =
        some (s, i)) :
      Produced l { l.withShared s with ingest := some i }
  | succeed {data : Bytes} {stream : τ} {frames : Nat}
      (on : l.session.producer = .active (.ingest data) stream frames)
      (through : l.ingest = some (.done (.ok ()))) :
      Produced l { l with
        session := { l.session with producer := .active .poll stream (frames + 1) }
        ingest := none }
  | broke {data : Bytes} {stream : τ} {frames : Nat} {fault : Fault}
      (on : l.session.producer = .active (.ingest data) stream frames)
      (through : l.ingest = some (.done (.error fault))) :
      Produced l { l with
        session := { l.session with
          producer := .active (.fail (Session.brokenError fault)) stream frames }
        ingest := none }

theorem Produced.frame {l l' : LiveSession σ τ} (produced : Produced l l') :
    l'.calls = l.calls ∧ l'.takings = l.takings := by
  cases produced <;> exact ⟨rfl, rfl⟩

theorem Produced.settings {l l' : LiveSession σ τ} (produced : Produced l l') :
    l'.session.backend = l.session.backend ∧ l'.session.options = l.session.options := by
  cases produced <;> exact ⟨rfl, rfl⟩

theorem produced_of_errand {l : LiveSession σ τ} {task : ProducerTask} {stream : τ} {frames : Nat}
    (on : l.session.producer = .active task stream frames) (outside : ∀ data, task ≠ .ingest data)
    (goes : task ≠ .close) : Produced l l.errand := by
  cases task with
  | poll =>
    have turned : l.errand = { l with session := { l.session with
        producer := .active (if l.session.phase = .capturing then .read else .close) stream frames } } := by
      simp only [errand, Session.produce, on]
      rfl
    rw [turned]
    exact .turn on outside (fun _ => rfl) (.inl rfl)
  | read =>
    let reading := (l.session.backend.read stream l.world).value
    let next := (Session.afterRead reading.1).value
    have turned : l.errand = { l with
        session := { l.session with producer := .active next stream frames }
        world := reading.2 } := by
      simp only [errand, Session.produce, on]
      rfl
    rw [turned]
    exact .turn on outside (fun _ => rfl) (.inl rfl)
  | ingest data => exact absurd rfl (outside data)
  | fail e =>
    have turned : l.errand = { l with session := { l.session with
        failure := some e, producer := .active .halt stream frames } } := by
      simp only [errand, Session.produce, on]
      rfl
    rw [turned]
    exact .turn on outside (fun captures => captures) (.inl rfl)
  | halt =>
    have turned : l.errand = { l with session := { l.session with
        phase := .stopped, producer := .active .close stream frames } } := by
      simp only [errand, Session.produce, on]
      rfl
    rw [turned]
    exact .turn on outside (fun captures => captures) (.inr rfl)
  | close => exact absurd rfl goes

theorem errand_close {l : LiveSession σ τ} {stream : τ} {frames : Nat}
    (on : l.session.producer = .active .close stream frames) :
    ∃ clean world, l.errand =
      { l with session := { l.session with producer := .ended clean }, world := world } := by
  simp only [errand, Session.produce, on, Act.value_bind]
  obtain ⟨_, outcome⟩ := (l.session.backend.close stream l.world).value.1
  cases outcome with
  | ok _ => exact ⟨_, _, rfl⟩
  | error fault => exact ⟨_, _, rfl⟩

theorem through_of_getD {stage : Option Ingest} {p : Packet} {result : Except Fault Unit}
    (through : stage.getD (.capture p) = .done result) : stage = some (.done result) := by
  cases stage with
  | none => cases through
  | some i => exact congrArg some through

theorem produced_of_produce {l l' : LiveSession σ τ} (stepped : l.produce = some l') :
    Produced l l' := by
  unfold produce at stepped
  cases on : l.session.producer with
  | absent => simp [on] at stepped
  | ended clean => simp [on] at stepped
  | active task stream frames =>
    rw [on] at stepped
    cases task with
    | ingest data =>
      simp only at stepped
      split at stepped
      case h_1 stage through =>
        cases stepped
        exact .succeed on (through_of_getD through)
      case h_2 stage fault through =>
        cases stepped
        exact .broke on (through_of_getD through)
      case h_3 =>
        simp only [bind, Option.bind_eq_some_iff] at stepped
        obtain ⟨⟨s, i⟩, moved, same⟩ := stepped
        cases same
        exact .work on moved
    | close =>
      cases stepped
      obtain ⟨clean, world, closed⟩ := errand_close on
      rw [closed]
      exact .close on
    | poll | read | fail | halt =>
      cases stepped
      exact produced_of_errand on (by simp) (by simp)

end LiveSession

/-! ## Steps that the producer takes -/

/-- Work on a frame changes the counters, and the queue by one offer at most. -/
theorem Session.ingest_frame (s : Session σ τ) (sequence : Nat) (data : Bytes) :
    ∃ metrics queue, (s.ingest sequence data).value.1 =
        { s with queue := { queue := queue, metrics := metrics } } ∧
      (queue = s.queue.queue ∨
        queue = (s.queue.queue.offer { sequence := sequence, data := data }).1) := by
  unfold ingest
  simp only
  split
  case h_1 | h_2 => exact ⟨_, _, rfl, .inl rfl⟩
  case h_3 =>
    simp only [bind, Traced.bind, MeteredQueue.enqueue]
    split
    case h_1 => exact ⟨_, _, rfl, .inr rfl⟩
    case h_2 => split <;> exact ⟨_, _, rfl, .inr rfl⟩

def Producer.afterIngest (stream : τ) (frames : Nat) : Except Fault Unit → Producer τ
  | .ok () => .active .poll stream (frames + 1)
  | .error fault => .active (.fail (Session.brokenError fault)) stream frames

theorem Session.produce_ingest {s : Session σ τ} {data : Bytes} {stream : τ} {frames : Nat}
    (on : s.producer = .active (.ingest data) stream frames) (world : σ) :
    (s.produce world).value = ({ (s.ingest frames data).value.1 with
      producer := .afterIngest stream frames (s.ingest frames data).value.2 }, world) := by
  simp only [produce, on, Act.value_bind, Act.value_lift]
  obtain ⟨after, outcome⟩ := (s.ingest frames data).value
  cases outcome <;> rfl

theorem LiveSession.produce_of_next {l : LiveSession σ τ} {data : Bytes} {stream : τ} {frames : Nat}
    {s : SharedQueue} {i i' : Ingest}
    (on : l.session.producer = .active (.ingest data) stream frames)
    (inside : l.ingest.getD (.capture { sequence := frames, data := data }) = i)
    (moved : i.step l.shared = some (s, i')) :
    l.produce = some { l.withShared s with ingest := some i' } := by
  unfold produce
  rw [on]
  simp only [inside]
  cases i with
  | done result => cases moved
  | _ =>
    simp only [moved]
    rfl

theorem LiveSession.produce_of_through {l : LiveSession σ τ} {data : Bytes} {stream : τ}
    {frames : Nat} {result : Except Fault Unit}
    (on : l.session.producer = .active (.ingest data) stream frames)
    (through : l.ingest = some (.done result)) :
    l.produce = some { l with
      session := { l.session with producer := .afterIngest stream frames result }
      ingest := none } := by
  unfold produce
  rw [on, through]
  cases result <;> rfl

/-! ## Steps of all threads -/

theorem Session.join_ended {s : Session σ τ} {clean : Bool} (on : s.producer = .ended clean) :
    ∃ failure, s.join.value = { s with producer := .absent, failure := failure } := by
  unfold join
  rw [on]
  cases clean with
  | true => exact ⟨s.failure, rfl⟩
  | false => exact ⟨_, rfl⟩

inductive Called (l : LiveSession σ τ) : Call τ → LiveSession σ τ → Call τ → Prop where
  | startLock (free : l.locked = false) :
      Called l .startLock { l with locked := true } .startMove
  | startMove (idle : l.session.phase = .idle) :
      Called l .startMove { l with session := { l.session with phase := .capturing } } .startOpen
  | startRefused (busy : l.session.phase ≠ .idle) :
      Called l .startMove l
        (.startUnlock false (.error (.invalidState l.session.phase.name Phase.capturing.name)))
  | startUnopened {e : CaptureError} {world : σ} :
      Called l .startOpen { l with world := world, openings := l.openings + 1 } (.startFail e)
  | startOpened {stream : τ} {world : σ} :
      Called l .startOpen
        { l with world := world, openings := l.openings + 1, opened := l.opened ++ [stream] }
        (.startSpawn stream)
  | startFail {e : CaptureError} :
      Called l (.startFail e) { l with session := { l.session with phase := .stopped } }
        (.startUnlock true (.error e))
  | startSpawn {stream : τ} :
      Called l (.startSpawn stream) { l with
        session := { l.session with producer := .active .poll stream 0 }
        spawnings := l.spawnings + 1 } .startStore
  | startStore : Called l .startStore { l with stored := true } (.startUnlock true (.ok ()))
  | startUnlock {passed : Bool} {result : Except CaptureError Unit} :
      Called l (.startUnlock passed result) { l with locked := false } (.started passed result)
  | stopMark : Called l .stopMark { l with session := l.session.requestStop } .stopLock
  | stopLock (free : l.locked = false) : Called l .stopLock { l with locked := true } .stopTake
  | stopTake (stored : l.stored = true) : Called l .stopTake { l with stored := false } .stopJoin
  | stopMissed (missing : l.stored = false) : Called l .stopTake l .stopUnlock
  | stopJoin {clean : Bool} {failure : Option CaptureError}
      (on : l.session.producer = .ended clean) :
      Called l .stopJoin
        { l with session := { l.session with producer := .absent, failure := failure } } .stopUnlock
  | stopUnlock : Called l .stopUnlock { l with locked := false } .stopReport
  | stopReport {failure : Option CaptureError} {result : Except CaptureError Unit} :
      Called l .stopReport { l with session := { l.session with failure := failure } }
        (.stopped result)

namespace Call

theorem called_of_step {l l' : LiveSession σ τ} {c c' : Call τ}
    (stepped : c.step l = some (l', c')) : Called l c l' c' := by
  cases c with
  | startLock =>
    simp only [step] at stepped
    split at stepped
    case isTrue => cases stepped
    case isFalse free =>
      cases stepped
      exact .startLock (by simpa using free)
  | startMove =>
    simp only [step] at stepped
    split at stepped
    case isTrue idle =>
      cases stepped
      exact .startMove idle
    case isFalse busy =>
      cases stepped
      exact .startRefused busy
  | startOpen =>
    simp only [step] at stepped
    split at stepped <;> cases stepped
    · exact .startUnopened
    · exact .startOpened
  | startFail => cases stepped; exact .startFail
  | startSpawn => cases stepped; exact .startSpawn
  | startStore => cases stepped; exact .startStore
  | startUnlock => cases stepped; exact .startUnlock
  | stopMark => cases stepped; exact .stopMark
  | stopLock =>
    simp only [step] at stepped
    split at stepped
    case isTrue => cases stepped
    case isFalse free =>
      cases stepped
      exact .stopLock (by simpa using free)
  | stopTake =>
    simp only [step] at stepped
    split at stepped
    case isTrue stored =>
      cases stepped
      exact .stopTake stored
    case isFalse missing =>
      cases stepped
      exact .stopMissed (by simpa using missing)
  | stopJoin =>
    simp only [step] at stepped
    split at stepped <;> cases stepped
    case h_1 clean on =>
      obtain ⟨failure, joined⟩ := Session.join_ended on
      rw [joined]
      exact .stopJoin on
  | stopUnlock => cases stepped; exact .stopUnlock
  | stopReport => cases stepped; exact .stopReport
  | started | stopped => cases stepped

theorem step_frame {l l' : LiveSession σ τ} {c c' : Call τ} (stepped : c.step l = some (l', c')) :
    l'.shared = l.shared ∧ l'.ingest = l.ingest ∧ l'.takings = l.takings ∧ l'.calls = l.calls := by
  cases called_of_step stepped <;> exact ⟨rfl, rfl, rfl, rfl⟩

theorem step_settings {l l' : LiveSession σ τ} {c c' : Call τ} (stepped : c.step l = some (l', c')) :
    l'.session.backend = l.session.backend ∧ l'.session.options = l.session.options := by
  cases called_of_step stepped <;> exact ⟨rfl, rfl⟩

end Call

namespace LiveSession

theorem exists_call {l l' : LiveSession σ τ} {index : Nat}
    (stepped : l.step (.call index) = some l') :
    ∃ c c' others after calls, Call.step l c = some (after, c') ∧
      l' = { after with calls := calls } ∧ l.calls.Perm (c :: others) ∧
      calls.Perm (c' :: others) := by
  simp only [step, bind, Option.bind_eq_some_iff] at stepped
  obtain ⟨c, found, ⟨after, c'⟩, moved, same⟩ := stepped
  cases same
  obtain ⟨others, was, now⟩ := exists_others found
  refine ⟨c, c', others, after, _, moved, rfl, was, ?_⟩
  rw [(Call.step_frame moved).2.2.2]
  exact now c'

/-- What one step does, whoever takes it. Which call and which consumer is which does not matter. -/
inductive Acted (l : LiveSession σ τ) : LiveSession σ τ → Prop where
  | producer {l' : LiveSession σ τ} (produced : l.Produced l') : Acted l l'
  | beginCall {c : Call τ} {calls : List (Call τ)} (new : c = .startLock ∨ c = .stopMark)
      (now : calls.Perm (c :: l.calls)) : Acted l { l with calls := calls }
  | call {c c' : Call τ} {others calls : List (Call τ)} {l' : LiveSession σ τ}
      (stepped : c.step l = some (l', c')) (was : l.calls.Perm (c :: others))
      (now : calls.Perm (c' :: others)) : Acted l { l' with calls := calls }
  | beginTaking {all : Bool} {takings : List Taking} (now : takings.Perm (.enter all :: l.takings)) :
      Acted l { l with takings := takings }
  | taking {t t' : Taking} {others takings : List Taking} {s : SharedQueue}
      (stepped : t.step l.shared = some (s, t')) (was : l.takings.Perm (t :: others))
      (now : takings.Perm (t' :: others)) : Acted l { l.withShared s with takings := takings }
  | edited {e : Edit} {s : SharedQueue} (stepped : e.step l.shared = some s) :
      Acted l (l.withShared s)
  | outside {world : σ} : Acted l { l with world := world }

theorem acted_of_step {l l' : LiveSession σ τ} {action : LiveAction σ}
    (stepped : l.step action = some l') : Acted l l' := by
  cases action with
  | produce => exact .producer (produced_of_produce stepped)
  | start =>
    cases stepped
    exact .beginCall (.inl rfl) (List.perm_append_singleton _ _)
  | stop =>
    cases stepped
    exact .beginCall (.inr rfl) (List.perm_append_singleton _ _)
  | call index =>
    obtain ⟨c, c', others, after, calls, moved, rfl, was, now⟩ := exists_call stepped
    exact .call moved was now
  | beginTaking all =>
    cases stepped
    exact .beginTaking (List.perm_append_singleton _ _)
  | take index =>
    simp only [step, bind, Option.bind_eq_some_iff] at stepped
    obtain ⟨t, found, ⟨s, t'⟩, moved, same⟩ := stepped
    cases same
    obtain ⟨others, was, now⟩ := exists_others found
    exact .taking moved was (now t')
  | edit e =>
    simp only [step, bind, Option.bind_eq_some_iff] at stepped
    obtain ⟨s, moved, same⟩ := stepped
    cases same
    exact .edited moved
  | outside world =>
    cases stepped
    exact .outside

theorem holds_of_steps {P : LiveSession σ τ → Prop}
    (kept : ∀ l action l', P l → l.step action = some l' → P l') {l l' : LiveSession σ τ}
    {actions : List (LiveAction σ)} (first : P l) (ran : l.run actions = some l') : P l' := by
  induction actions generalizing l with
  | nil =>
    cases ran
    exact first
  | cons action rest ih =>
    simp only [run, List.foldlM_cons, bind, Option.bind_eq_some_iff] at ran
    obtain ⟨next, stepped, ran⟩ := ran
    exact ih (kept l action next first stepped) ran

theorem holds_of_run {P : LiveSession σ τ → Prop} (kept : ∀ l l', P l → Acted l l' → P l')
    {l l' : LiveSession σ τ} {actions : List (LiveAction σ)} (first : P l)
    (ran : l.run actions = some l') : P l' :=
  holds_of_steps (fun l _ l' held stepped => kept l l' held (acted_of_step stepped)) first ran

end LiveSession

-- Neither the calls nor the takings have a part in what the producer or a call does.
theorem LiveSession.produce_with (l : LiveSession σ τ) (calls : List (Call τ))
    (takings : List Taking) :
    ({ l with calls := calls, takings := takings } : LiveSession σ τ).produce =
      l.produce.map fun l' => { l' with calls := calls, takings := takings } := by
  unfold produce
  cases on : l.session.producer with
  | absent | ended => rfl
  | active task stream frames =>
    cases task with
    | ingest data =>
      simp only
      split
      case h_1 | h_2 => rfl
      case h_3 =>
        simp only [bind, Option.map_bind]
        rfl
    | poll | read | fail | halt | close => rfl

theorem Call.step_with (c : Call τ) (l : LiveSession σ τ) (calls : List (Call τ))
    (takings : List Taking) :
    c.step ({ l with calls := calls, takings := takings } : LiveSession σ τ) =
      (c.step l).map fun (l', c') => ({ l' with calls := calls, takings := takings }, c') := by
  cases c <;> simp only [step] <;> first | rfl | (split <;> rfl)

/-! ## Calls that nobody interrupts -/

def Producer.present : Producer τ → Bool
  | .absent => false
  | _ => true

theorem Producer.eq_absent {p : Producer τ} (missing : p.present = false) : p = .absent := by
  cases p <;> first | rfl | cases missing

theorem Session.start_of_idle {s : Session σ τ} (idle : s.phase = .idle) (world : σ) :
    (s.start world).value = match (s.backend.openOn s.interface s.options world).value with
      | (.error e, later) => (({ s with phase := .stopped }, .error e), later)
      | (.ok stream, later) =>
        (({ s with phase := .capturing, producer := .active .poll stream 0 }, .ok ()), later) := by
  simp only [start, idle, ne_eq, not_true_eq_false, if_false, Act.value_bind]
  rcases (s.backend.openOn s.interface s.options world).value with ⟨e | stream, later⟩ <;> rfl

namespace Call

def Next (a b : LiveSession σ τ × Call τ) : Prop := a.2.step a.1 = some b

theorem start_alone (l : LiveSession σ τ) (free : l.locked = false) :
    ∃ l' passed, Relation.ReflTransGen Next (l, .startLock)
        (l', .started passed (l.session.start l.world).value.1.2) ∧
      l'.session = (l.session.start l.world).value.1.1 ∧
      l'.world = (l.session.start l.world).value.2 ∧ l'.locked = false ∧
      (l.stored = l.session.producer.present → l'.stored = l'.session.producer.present) := by
  let entered : LiveSession σ τ := { l with locked := true }
  have enter : Next (l, .startLock) (entered, .startMove) := by simp [Next, step, free, entered]
  by_cases idle : l.session.phase = .idle
  · let capturing : LiveSession σ τ :=
      { entered with session := { l.session with phase := .capturing } }
    have move : Next (entered, .startMove) (capturing, .startOpen) := by
      simp [Next, step, entered, capturing, idle]
    rw [Session.start_of_idle idle]
    cases opened : (l.session.backend.openOn l.session.interface l.session.options l.world).value with
    | mk outcome world =>
      cases outcome with
      | error e =>
        have failed : Next (capturing, .startOpen)
            ({ capturing with world := world, openings := l.openings + 1 }, .startFail e) := by
          simp [Next, step, capturing, entered, opened]
        exact ⟨_, _, .head enter (.head move (.head failed (.head rfl (.single rfl)))), rfl, rfl, rfl,
          id⟩
      | ok stream =>
        have passed : Next (capturing, .startOpen) ({ capturing with
            world := world, openings := l.openings + 1, opened := l.opened ++ [stream] },
            .startSpawn stream) := by
          simp [Next, step, capturing, entered, opened]
        exact ⟨_, _, .head enter (.head move (.head passed (.head rfl (.head rfl (.single rfl))))),
          rfl, rfl, rfl, fun _ => rfl⟩
  · have refused : Next (entered, .startMove) (entered, .startUnlock false
        (.error (.invalidState l.session.phase.name Phase.capturing.name))) := by
      simp [Next, step, entered, idle]
    have result : (l.session.start l.world).value = ((l.session,
        .error (.invalidState l.session.phase.name Phase.capturing.name)), l.world) := by
      simp only [Session.start, ne_eq, idle, not_false_eq_true, if_true]
      rfl
    rw [result]
    exact ⟨_, _, .head enter (.head refused (.single rfl)), rfl, rfl, rfl, id⟩

theorem conclude_alone (l : LiveSession σ τ) (previous : Phase) (free : l.locked = false)
    (handle : l.stored = l.session.producer.present)
    (through : ∀ task stream frames, l.session.producer ≠ .active task stream frames) :
    ∃ l', Relation.ReflTransGen Next (l, .stopLock)
        (l', .stopped (l.session.conclude previous).value.2) ∧
      l'.session = (l.session.conclude previous).value.1 ∧ l'.world = l.world ∧
      l'.locked = false ∧ l'.stored = l'.session.producer.present := by
  let entered : LiveSession σ τ := { l with locked := true }
  have enter : Next (l, .stopLock) (entered, .stopTake) := by simp [Next, step, free, entered]
  have result : (l.session.conclude previous).value = l.session.join.value.takeFailure := by
    simp only [Session.conclude, bind, Traced.bind]
    split <;> rfl
  rw [result]
  cases on : l.session.producer with
  | absent =>
    have same : l.session.join.value = l.session := by
      simp only [Session.join, on]
      rfl
    have nothing : Next (entered, .stopTake) (entered, .stopUnlock) := by
      simp [Next, step, entered, handle, on, Producer.present]
    rw [same]
    exact ⟨_, .head enter (.head nothing (.head rfl (.single rfl))), rfl, rfl, rfl, handle⟩
  | ended clean =>
    let taken : LiveSession σ τ := { entered with stored := false }
    have take : Next (entered, .stopTake) (taken, .stopJoin) := by
      simp [Next, step, entered, taken, handle, on, Producer.present]
    have join : Next (taken, .stopJoin)
        ({ taken with session := l.session.join.value }, .stopUnlock) := by
      simp [Next, step, taken, entered, on]
    refine ⟨_, .head enter (.head take (.head join (.head rfl (.single rfl)))), rfl, rfl, rfl, ?_⟩
    obtain ⟨failure, joined⟩ := Session.join_ended on
    rw [joined]
    rfl
  | active task stream frames => exact absurd on (through task stream frames)

theorem frame_of_alone {a b : LiveSession σ τ × Call τ}
    (work : Relation.ReflTransGen Next a b) :
    b.1.shared = a.1.shared ∧ b.1.ingest = a.1.ingest := by
  induction work with
  | refl => exact ⟨rfl, rfl⟩
  | tail _ next ih =>
    obtain ⟨shared, ingest, _⟩ := step_frame next
    exact ⟨shared.trans ih.1, ingest.trans ih.2⟩

end Call
end CaptureQueue
