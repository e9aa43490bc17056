import CaptureQueue.Proofs.Session.Creation
import CaptureQueue.Proofs.Session.Live

/-! What a session among threads asks of its backend. A backend that keeps note of what it is asked
makes no difference to a run, and its notes have an opening for each that is counted and a closing for
each stream that is listed as closed. -/

set_option autoImplicit false
namespace CaptureQueue

variable {σ τ : Type}

def Session.noting (s : Session σ τ) : Session (σ × List BackendQuery) τ where
  backend := s.backend.noting
  interface := s.interface
  options := s.options
  filters := s.filters
  queue := s.queue
  phase := s.phase
  producer := s.producer
  failure := s.failure

def ProducerTask.asks : ProducerTask → List BackendQuery
  | .read => [.read]
  | .close => [.close]
  | .poll | .ingest _ | .fail _ | .halt => []

def Call.asks : Call τ → List BackendQuery
  | .startOpen => [.openOn]
  | _ => []

/-- The world may change on its own, but not the notes. -/
def LiveAction.noting (asked : List BackendQuery) :
    LiveAction σ → LiveAction (σ × List BackendQuery)
  | .produce => .produce
  | .start => .start
  | .stop => .stop
  | .call index => .call index
  | .beginTaking all => .beginTaking all
  | .take index => .take index
  | .edit e => .edit e
  | .outside world => .outside (world, asked)

theorem Session.produce_noting {s : Session σ τ} {task : ProducerTask} {stream : τ} {frames : Nat}
    (on : s.producer = .active task stream frames) (outside : ∀ data, task ≠ .ingest data)
    (world : σ) (asked : List BackendQuery) :
    (s.noting.produce (world, asked)).value =
      ((s.produce world).value.1.noting, (s.produce world).value.2, asked ++ task.asks) := by
  have there : s.noting.producer = .active task stream frames := on
  cases task with
  | ingest data => exact absurd rfl (outside data)
  | poll | fail | halt =>
    simp only [produce, on, there, ProducerTask.asks, List.append_nil]
    rfl
  | read =>
    simp only [produce, on, there, Act.value_bind]
    rfl
  | close =>
    simp only [produce, on, there, Act.value_bind]
    have same : (s.noting.backend.close stream (world, asked)).value.1 =
      (s.backend.close stream world).value.1 := rfl
    rw [same]
    obtain ⟨_, outcome⟩ := (s.backend.close stream world).value.1
    cases outcome <;> rfl

namespace LiveSession

def noting (l : LiveSession σ τ) (asked : List BackendQuery) :
    LiveSession (σ × List BackendQuery) τ where
  session := l.session.noting
  world := (l.world, asked)
  ingest := l.ingest
  queueHeld := l.queueHeld
  ledger := l.ledger
  locked := l.locked
  stored := l.stored
  calls := l.calls
  takings := l.takings
  openings := l.openings
  spawnings := l.spawnings
  opened := l.opened
  closed := l.closed

def asks (l : LiveSession σ τ) : LiveAction σ → List BackendQuery
  | .produce =>
    match l.session.producer with
    | .active task _ _ => task.asks
    | _ => []
  | .call index => (l.calls[index]?).elim [] Call.asks
  | _ => []

variable {l l' : LiveSession σ τ}

/-! ## One step -/

theorem errand_noting {task : ProducerTask} {stream : τ} {frames : Nat}
    (on : l.session.producer = .active task stream frames) (outside : ∀ data, task ≠ .ingest data)
    (asked : List BackendQuery) :
    (l.noting asked).errand = l.errand.noting (asked ++ task.asks) := by
  have turned := Session.produce_noting on outside l.world asked
  have all : (l.noting asked).errand = { l.noting asked with
      session := (l.session.noting.produce (l.world, asked)).value.1
      world := (l.session.noting.produce (l.world, asked)).value.2 } := rfl
  rw [all, turned]
  rfl

theorem produce_noting (l : LiveSession σ τ) (asked : List BackendQuery) :
    (l.noting asked).produce = l.produce.map (·.noting (asked ++ l.asks .produce)) := by
  have there : (l.noting asked).session.producer = l.session.producer := rfl
  unfold produce asks
  rw [there]
  cases on : l.session.producer with
  | absent | ended => rfl
  | active task stream frames =>
    cases task with
    | ingest data =>
      have stage : (l.noting asked).ingest = l.ingest := rfl
      have shared : (l.noting asked).shared = l.shared := rfl
      simp only [stage, shared, ProducerTask.asks, List.append_nil]
      split
      case h_1 | h_2 => rfl
      case h_3 i _ _ =>
        simp only [bind, Option.map_bind]
        rfl
    | close =>
      simp only [errand_noting on (by simp) asked, Option.map_some]
      rfl
    | poll | read | fail | halt =>
      simp only [errand_noting on (by simp) asked, Option.map_some]

end LiveSession

theorem Session.join_noting (s : Session σ τ) : s.noting.join.value = s.join.value.noting := by
  have there : s.noting.producer = s.producer := rfl
  unfold join
  rw [there]
  cases s.producer with
  | absent | active => rfl
  | ended clean => cases clean <;> rfl

theorem Call.step_noting (c : Call τ) (l : LiveSession σ τ) (asked : List BackendQuery) :
    c.step (l.noting asked) =
      (c.step l).map fun (l', c') => (l'.noting (asked ++ c.asks), c') := by
  have locked : (l.noting asked).locked = l.locked := rfl
  have stored : (l.noting asked).stored = l.stored := rfl
  have phase : (l.noting asked).session.phase = l.session.phase := rfl
  have producer : (l.noting asked).session.producer = l.session.producer := rfl
  have joined : (l.noting asked).session.join.value = l.session.join.value.noting :=
    l.session.join_noting
  cases c with
  | startOpen =>
    have queried : ((l.noting asked).session.backend.openOn (l.noting asked).session.interface
        (l.noting asked).session.options (l.noting asked).world).value =
        ((l.session.backend.openOn l.session.interface l.session.options l.world).value.1,
          (l.session.backend.openOn l.session.interface l.session.options l.world).value.2,
          asked ++ [.openOn]) := rfl
    simp only [step, queried]
    rcases (l.session.backend.openOn l.session.interface l.session.options l.world).value with
      ⟨e | stream, later⟩ <;> rfl
  | startLock | startMove | stopLock | stopTake | stopJoin =>
    simp only [step, asks, List.append_nil, locked, stored, phase, producer, joined]
    split <;> rfl
  | _ =>
    simp only [asks, List.append_nil]
    rfl

namespace LiveSession

variable {l l' : LiveSession σ τ}

theorem step_noting (l : LiveSession σ τ) (action : LiveAction σ) (asked : List BackendQuery) :
    (l.noting asked).step (action.noting asked) =
      (l.step action).map (·.noting (asked ++ l.asks action)) := by
  cases action with
  | produce => exact produce_noting l asked
  | call index =>
    have there : (l.noting asked).calls = l.calls := rfl
    simp only [LiveAction.noting, step, there, asks]
    cases l.calls[index]? with
    | none => rfl
    | some c =>
      simp only [bind, Option.bind_some, Call.step_noting, Option.bind_map, Option.map_bind]
      rfl
  | take index =>
    have there : (l.noting asked).takings = l.takings := rfl
    have shared : (l.noting asked).shared = l.shared := rfl
    simp only [LiveAction.noting, step, there, shared, asks, List.append_nil]
    cases l.takings[index]? with
    | none => rfl
    | some t =>
      simp only [bind, Option.bind_some, Option.map_bind]
      rfl
  | edit e =>
    have shared : (l.noting asked).shared = l.shared := rfl
    simp only [LiveAction.noting, step, shared, asks, List.append_nil, bind, Option.map_bind]
    rfl
  | start | stop | beginTaking | outside =>
    simp only [asks, List.append_nil]
    rfl

structure Notes (l l' : LiveSession σ τ) (more : List BackendQuery) : Prop where
  opened : more.count .openOn + l.openings = l'.openings
  closed : more.count .close + l.closed.length = l'.closed.length

theorem Notes.trans {l'' : LiveSession σ τ} {more others : List BackendQuery} (h : Notes l l' more)
    (h' : Notes l' l'' others) : Notes l l'' (more ++ others) where
  opened := by rw [← h'.opened, ← h.opened, List.count_append]; omega
  closed := by rw [← h'.closed, ← h.closed, List.count_append]; omega

theorem Notes.nothing (openings : l'.openings = l.openings) (closed : l'.closed = l.closed) :
    Notes l l' [] where
  opened := by simp [openings]
  closed := by simp [closed]

theorem notes_of_produce (stepped : l.produce = some l') : Notes l l' (l.asks .produce) := by
  unfold produce at stepped
  unfold asks
  cases on : l.session.producer with
  | absent | ended => simp [on] at stepped
  | active task stream frames =>
    rw [on] at stepped
    cases task with
    | ingest data =>
      simp only at stepped
      split at stepped
      case h_1 | h_2 =>
        cases stepped
        exact .nothing rfl rfl
      case h_3 =>
        simp only [bind, Option.bind_eq_some_iff] at stepped
        obtain ⟨⟨s, i⟩, moved, same⟩ := stepped
        cases same
        exact .nothing rfl rfl
    | close =>
      cases stepped
      exact ⟨Nat.zero_add _, by simp [ProducerTask.asks, Nat.add_comm]⟩
    | poll | read | fail | halt =>
      cases stepped
      exact ⟨Nat.zero_add _, Nat.zero_add _⟩

theorem notes_of_step {action : LiveAction σ} (stepped : l.step action = some l') :
    Notes l l' (l.asks action) := by
  cases action with
  | produce => exact notes_of_produce stepped
  | call index =>
    simp only [step, bind, Option.bind_eq_some_iff] at stepped
    obtain ⟨c, found, ⟨after, c'⟩, moved, same⟩ := stepped
    cases same
    simp only [asks, found, Option.elim_some]
    cases Call.called_of_step moved with
    | startUnopened | startOpened => exact ⟨Nat.add_comm _ _, Nat.zero_add _⟩
    | _ => exact .nothing rfl rfl
  | take index =>
    simp only [step, bind, Option.bind_eq_some_iff] at stepped
    obtain ⟨t, found, ⟨s, t'⟩, moved, same⟩ := stepped
    cases same
    exact .nothing rfl rfl
  | edit e =>
    simp only [step, bind, Option.bind_eq_some_iff] at stepped
    obtain ⟨s, moved, same⟩ := stepped
    cases same
    exact .nothing rfl rfl
  | start | stop | beginTaking | outside =>
    cases stepped
    exact .nothing rfl rfl

/-! ## All steps -/

theorem run_noting {actions : List (LiveAction σ)} (ran : l.run actions = some l')
    (asked : List BackendQuery) :
    ∃ noted more, (l.noting asked).run noted = some (l'.noting (asked ++ more)) ∧
      Notes l l' more := by
  -- The notes of a run are those of its steps one after the other.
  induction actions generalizing l asked with
  | nil =>
    cases ran
    exact ⟨[], [], by simp [run], Nat.zero_add _, Nat.zero_add _⟩
  | cons action rest ih =>
    simp only [run, List.foldlM_cons, bind, Option.bind_eq_some_iff] at ran
    obtain ⟨next, stepped, ran⟩ := ran
    obtain ⟨noted, more, through, notes⟩ := ih ran (asked ++ l.asks action)
    refine ⟨action.noting asked :: noted, l.asks action ++ more, ?_, (notes_of_step stepped).trans notes⟩
    simp only [run, List.foldlM_cons, step_noting, stepped, Option.map_some, bind, Option.bind_some,
      ← List.append_assoc]
    exact through

/-- The openings that are counted are the openings that are asked for, and the streams that are listed as
closed are as many as the closings. -/
theorem asked_of_run {session : Session σ τ} {world : σ} {actions : List (LiveAction σ)}
    (ran : (ofSession session world).run actions = some l) :
    ∃ noted asked, (ofSession session.noting (world, [])).run noted = some (l.noting asked) ∧
      asked.count .openOn = l.openings ∧ asked.count .close = l.closed.length := by
  obtain ⟨noted, asked, through, opened, closed⟩ := run_noting ran []
  exact ⟨noted, asked, through, opened, closed⟩

end LiveSession
end CaptureQueue
