import CaptureQueue.Pipeline
import CaptureQueue.Proofs.Session.Accounting
import CaptureQueue.Proofs.Session.Unbroken

/-! A capture at work among threads, each told by its single steps: the producer, the consumers, the
supervisor with its calls of start and stop, and the user who may interrupt. Log records, and the
reports before the last, are left out. -/

set_option autoImplicit false
namespace CaptureQueue

/-- What a consumer does next. It takes packets that it waits for, and later those that are left. -/
inductive LiveTask where
  | look
  | take (left : Bool) (t : Taking)
  | inspect (left : Bool) (p : Packet)
  | done
deriving DecidableEq

structure LiveConsumer where
  task : LiveTask := .look
  consumed : Nat := 0
deriving DecidableEq

inductive LiveSupervisor (τ : Type) where
  | start (c : Call τ)
  | look
  | sleep
  | stop
  | join (c : Call τ)
  | gather (outcome : Except CaptureError Unit)
  | done (outcome : Except CaptureError Unit)

/-- A capture at work. The calls and takings of `base` are those that are through, the deadline is in
milliseconds after the start, and what is `recorded`, the failure that the producer has kept, decides
nothing. -/
structure LivePipeline (σ τ : Type) where
  base : LiveSession σ τ
  supervisor : LiveSupervisor τ := .start .startLock
  asked : Nat
  consumers : List LiveConsumer := []
  interrupted : Bool := false
  consuming : Bool := true
  deadline : Option Nat := none
  recorded : Option CaptureError := none

/-- A consumer that has waited in vain may have the patience to go on. -/
inductive LivePipelineAction (σ : Type) where
  | produce
  | consume (index : Nat) (patient : Bool)
  | interrupt
  | supervise (now : Nat)
  | outside (world : σ)

variable {σ τ : Type}

def LiveSession.keeping? (l : LiveSession σ τ) : Option CaptureError :=
  match l.session.producer with
  | .active (.fail e) _ _ => some e
  | _ => none

def LiveTask.after (left patient : Bool) : Option Packet → LiveTask
  | some p => .inspect left p
  | none => if left then .done else if patient then .take left (.enter false) else .look

namespace LiveConsumer

/-- The next step of a consumer; none at the end, or while another thread holds the queue. -/
def step (l : LiveSession σ τ) (consuming patient : Bool) (c : LiveConsumer) :
    Option (LiveSession σ τ × LiveConsumer) :=
  match c.task with
  | .look => some (l, { c with task := .take (!consuming) (.enter false) })
  | .take left (.done packets) => some (
      { l with takings := l.takings ++ [.done packets] },
      { c with task := .after left patient packets.head? })
  | .take left t => do
    let (s, t) ← t.step l.shared
    return (l.withShared s, { c with task := .take left t })
  | .inspect left _ => some (l, {
      task := if left then .take left (.enter false) else .look, consumed := c.consumed + 1 })
  | .done => none

def taking (c : LiveConsumer) : List Taking :=
  match c.task with
  | .take _ t => [t]
  | _ => []

end LiveConsumer

namespace LiveSupervisor

def call : LiveSupervisor τ → List (Call τ)
  | .start c | .join c => [c]
  | _ => []

end LiveSupervisor

namespace LivePipeline

def ofSession (s : Session σ τ) (world : σ) (consumers : Nat) (deadline : Option Nat) :
    LivePipeline σ τ where
  base := .ofSession s world
  asked := consumers
  deadline := deadline

def live (p : LivePipeline σ τ) : LiveSession σ τ :=
  { p.base with
    calls := p.base.calls ++ p.supervisor.call
    takings := p.base.takings ++ p.consumers.flatMap LiveConsumer.taking }

def consumed (p : LivePipeline σ τ) : Nat := (p.consumers.map (·.consumed)).sum

/-- How the capture ended, once the last report is made. -/
def outcome? (p : LivePipeline σ τ) : Option (Except CaptureError Unit) :=
  match p.supervisor with
  | .done outcome => some outcome
  | _ => none

/-- The next step of the supervisor; none at the end, and none after a start that failed. -/
def supervise (p : LivePipeline σ τ) (now : Nat) : Option (LivePipeline σ τ) :=
  match p.supervisor with
  | .start (.started passed (.ok ())) => some { p with
      base := { p.base with calls := p.base.calls ++ [.started passed (.ok ())] }
      supervisor := .look
      consumers := p.consumers ++ List.replicate (max p.asked 1) {} }
  | .start c => do
    let (l, c) ← c.step p.base
    return { p with base := l, supervisor := .start c }
  | .look => some { p with supervisor := if p.interrupted then .stop else .sleep }
  | .sleep =>
    let ends := p.base.session.phase = .stopped ∨ p.deadline.any (· ≤ now)
    some { p with supervisor := if ends then .stop else .look }
  | .stop => some { p with supervisor := .join .stopMark }
  | .join (.stopped outcome) => some { p with
      base := { p.base with calls := p.base.calls ++ [.stopped outcome] }
      supervisor := .gather outcome
      consuming := false }
  | .join c => do
    let (l, c) ← c.step p.base
    return { p with base := l, supervisor := .join c }
  | .gather outcome =>
    if p.consumers.all (·.task = .done) then some { p with supervisor := .done outcome } else none
  | .done _ => none

def step (p : LivePipeline σ τ) : LivePipelineAction σ → Option (LivePipeline σ τ)
  | .produce => do
    return { p with base := ← p.base.produce, recorded := p.base.keeping?.or p.recorded }
  | .consume index patient => do
    let (l, c) ← (← p.consumers[index]?).step p.base p.consuming patient
    return { p with base := l, consumers := p.consumers.set index c }
  | .interrupt => some { p with interrupted := true }
  | .supervise now => p.supervise now
  | .outside world => some { p with base := { p.base with world := world } }

def run (p : LivePipeline σ τ) (actions : List (LivePipelineAction σ)) :
    Option (LivePipeline σ τ) := actions.foldlM step p

end LivePipeline

/-! ## What one step does -/

namespace LiveConsumer

inductive Stepped (l : LiveSession σ τ) (consuming : Bool) (c : LiveConsumer) :
    LiveSession σ τ → LiveConsumer → Prop where
  | look (task : c.task = .look) :
      Stepped l consuming c l { c with task := .take (!consuming) (.enter false) }
  | move {left : Bool} {t t' : Taking} {s : SharedQueue} (task : c.task = .take left t)
      (moved : t.step l.shared = some (s, t')) :
      Stepped l consuming c (l.withShared s) { c with task := .take left t' }
  | through {left patient : Bool} {packets : List Packet}
      (task : c.task = .take left (.done packets)) :
      Stepped l consuming c { l with takings := l.takings ++ [.done packets] }
        { c with task := .after left patient packets.head? }
  | inspect {left : Bool} {p : Packet} (task : c.task = .inspect left p) :
      Stepped l consuming c l {
        task := if left then .take left (.enter false) else .look, consumed := c.consumed + 1 }

theorem stepped_of_step {l l' : LiveSession σ τ} {consuming patient : Bool} {c c' : LiveConsumer}
    (stepped : c.step l consuming patient = some (l', c')) : c.Stepped l consuming l' c' := by
  unfold step at stepped
  split at stepped
  case h_1 task =>
    cases stepped
    exact .look task
  case h_2 task =>
    cases stepped
    exact .through task
  case h_3 task =>
    simp only [bind, Option.bind_eq_some_iff] at stepped
    obtain ⟨⟨s, t'⟩, moved, same⟩ := stepped
    cases same
    exact .move task moved
  case h_4 task =>
    cases stepped
    exact .inspect task
  case h_5 => cases stepped

end LiveConsumer

namespace LivePipeline

variable {p p' : LivePipeline σ τ}

inductive Supervised (p : LivePipeline σ τ) : LivePipeline σ τ → Prop where
  | starting {c c' : Call τ} {l : LiveSession σ τ} (at_it : p.supervisor = .start c)
      (moved : c.step p.base = some (l, c')) :
      Supervised p { p with base := l, supervisor := .start c' }
  | started {passed : Bool} (at_it : p.supervisor = .start (.started passed (.ok ()))) :
      Supervised p { p with
        base := { p.base with calls := p.base.calls ++ [.started passed (.ok ())] }
        supervisor := .look
        consumers := p.consumers ++ List.replicate (max p.asked 1) {} }
  | turn {next : LiveSupervisor τ} (waits : p.supervisor = .look ∨ p.supervisor = .sleep)
      (goes : next = .look ∨ next = .sleep ∨ next = .stop) :
      Supervised p { p with supervisor := next }
  | stop (at_it : p.supervisor = .stop) : Supervised p { p with supervisor := .join .stopMark }
  | joining {c c' : Call τ} {l : LiveSession σ τ} (at_it : p.supervisor = .join c)
      (moved : c.step p.base = some (l, c')) :
      Supervised p { p with base := l, supervisor := .join c' }
  | joined {outcome : Except CaptureError Unit} (at_it : p.supervisor = .join (.stopped outcome)) :
      Supervised p { p with
        base := { p.base with calls := p.base.calls ++ [.stopped outcome] }
        supervisor := .gather outcome
        consuming := false }
  | gathered {outcome : Except CaptureError Unit} (at_it : p.supervisor = .gather outcome)
      (all : ∀ c ∈ p.consumers, c.task = .done) :
      Supervised p { p with supervisor := .done outcome }

theorem supervised_of_supervise {now : Nat} (stepped : p.supervise now = some p') :
    p.Supervised p' := by
  unfold supervise at stepped
  split at stepped
  case h_1 at_it =>
    cases stepped
    exact .started at_it
  case h_2 at_it =>
    simp only [bind, Option.bind_eq_some_iff] at stepped
    obtain ⟨⟨l, c'⟩, moved, same⟩ := stepped
    cases same
    exact .starting at_it moved
  case h_3 at_it =>
    cases stepped
    exact .turn (.inl at_it) (by split <;> simp)
  case h_4 at_it =>
    cases stepped
    exact .turn (.inr at_it) (by split <;> simp)
  case h_5 at_it =>
    cases stepped
    exact .stop at_it
  case h_6 at_it =>
    cases stepped
    exact .joined at_it
  case h_7 at_it =>
    simp only [bind, Option.bind_eq_some_iff] at stepped
    obtain ⟨⟨l, c'⟩, moved, same⟩ := stepped
    cases same
    exact .joining at_it moved
  case h_8 at_it =>
    split at stepped
    case isTrue all =>
      cases stepped
      exact .gathered at_it (by simpa using all)
    case isFalse => cases stepped
  case h_9 => cases stepped

theorem outcome?_eq_some {outcome : Except CaptureError Unit} :
    p.outcome? = some outcome ↔ p.supervisor = .done outcome := by
  unfold outcome?
  cases p.supervisor <;> simp

theorem exists_takings {index : Nat} {c : LiveConsumer} (found : p.consumers[index]? = some c) :
    ∃ others, p.live.takings.Perm (c.taking ++ others) ∧ ∀ next : LiveConsumer,
      (p.base.takings ++ (p.consumers.set index next).flatMap LiveConsumer.taking).Perm
        (next.taking ++ others) := by
  obtain ⟨rest, was, now⟩ := exists_others found
  refine ⟨p.base.takings ++ rest.flatMap LiveConsumer.taking, ?_, fun next => ?_⟩
  · exact ((was.flatMap_right _).append_left _).trans (List.perm_append_comm_assoc _ _ _)
  · exact (((now next).flatMap_right _).append_left _).trans (List.perm_append_comm_assoc _ _ _)

/-- What one step does to the session: what one of its threads does, or nothing but to put the
takings into another order. -/
def Tended (l l' : LiveSession σ τ) : Prop :=
  l.Acted l' ∨ ∃ takings, takings.Perm l.takings ∧ l' = { l with takings := takings }

theorem Tended.of_taking {l : LiveSession σ τ} {c : LiveConsumer} {takings : List Taking}
    (new : c.taking = [] ∨ c.taking = [.enter false])
    (now : takings.Perm (c.taking ++ l.takings)) : Tended l { l with takings := takings } := by
  rcases new with none | one
  · rw [none] at now
    exact .inr ⟨takings, now, rfl⟩
  · rw [one] at now
    exact .inl (.beginTaking now)

theorem tended_of_consume {index : Nat} {c c' : LiveConsumer} {l : LiveSession σ τ}
    (found : p.consumers[index]? = some c) (stepped : c.Stepped p.base p.consuming l c') :
    Tended p.live
      ({ p with base := l, consumers := p.consumers.set index c' } : LivePipeline σ τ).live := by
  obtain ⟨others, was, now⟩ := exists_takings found
  have now := now c'
  cases stepped with
  | look task =>
    have away : c.taking = [] := by rw [LiveConsumer.taking, task]
    rw [away] at was
    exact .of_taking (.inr rfl) (now.trans (was.symm.append_left _))
  | @move left t t' s task moved =>
    have inside : c.taking = [t] := by rw [LiveConsumer.taking, task]
    rw [inside] at was
    exact .inl (.taking moved was now)
  | @through left patient packets task =>
    have inside : c.taking = [.done packets] := by rw [LiveConsumer.taking, task]
    rw [inside] at was
    have kept : ∀ takings, (p.base.takings ++ [Taking.done packets] ++ takings).Perm
        ([Taking.done packets] ++ (p.base.takings ++ takings)) := fun takings => by
      rw [← List.append_assoc]
      exact List.perm_append_comm.append_right _
    refine .of_taking ?_ ((kept _).trans ((now.append_left _).trans
      ((List.perm_append_comm_assoc _ _ _).trans (was.symm.append_left _))))
    cases packets.head? with
    | some p => exact .inl rfl
    | none => cases left <;> cases patient <;> simp [LiveTask.after, LiveConsumer.taking]
  | @inspect left packet task =>
    have away : c.taking = [] := by rw [LiveConsumer.taking, task]
    rw [away] at was
    refine .of_taking ?_ (now.trans (was.symm.append_left _))
    cases left
    · exact .inl rfl
    · exact .inr rfl

theorem acted_of_call {c c' : Call τ} {l : LiveSession σ τ} {supervisor : LiveSupervisor τ}
    (was : p.supervisor.call = [c]) (moved : c.step p.base = some (l, c'))
    (now : supervisor.call = [c']) :
    p.live.Acted ({ p with base := l, supervisor := supervisor } : LivePipeline σ τ).live := by
  obtain ⟨_, _, takings, calls⟩ := Call.step_frame moved
  have whole := c.step_with p.base p.live.calls p.live.takings
  rw [moved] at whole
  have before : p.live.calls.Perm (c :: p.base.calls) := by
    rw [live, was]
    exact List.perm_append_singleton _ _
  have after : (l.calls ++ supervisor.call).Perm (c' :: p.base.calls) := by
    rw [calls, now]
    exact List.perm_append_singleton _ _
  have acted := LiveSession.Acted.call whole before after
  simp only [live, takings] at acted ⊢
  exact acted

theorem tended_of_supervise (stepped : p.Supervised p') : Tended p.live p'.live := by
  have same (again : p'.live = p.live) : Tended p.live p'.live := .inr ⟨_, .refl _, again⟩
  cases stepped with
  | starting at_it moved => exact .inl (acted_of_call (by rw [at_it]; rfl) moved rfl)
  | joining at_it moved => exact .inl (acted_of_call (by rw [at_it]; rfl) moved rfl)
  | started at_it =>
    have away : (List.replicate (max p.asked 1) ({} : LiveConsumer)).flatMap LiveConsumer.taking =
        [] := by simp [LiveConsumer.taking]
    exact same (by simp [live, at_it, LiveSupervisor.call, away])
  | turn waits goes =>
    refine same ?_
    rcases waits with at_it | at_it <;> rcases goes with rfl | rfl | rfl <;>
      simp [live, at_it, LiveSupervisor.call]
  | stop at_it =>
    refine .inl (.beginCall (.inr rfl) ?_)
    simp [live, at_it, LiveSupervisor.call]
  | joined at_it => exact same (by simp [live, at_it, LiveSupervisor.call])
  | gathered at_it => exact same (by simp [live, at_it, LiveSupervisor.call])

theorem tended_of_step {action : LivePipelineAction σ} (stepped : p.step action = some p') :
    Tended p.live p'.live := by
  cases action with
  | produce =>
    simp only [step, bind, Option.bind_eq_some_iff] at stepped
    obtain ⟨l, moved, same⟩ := stepped
    cases same
    have produced := LiveSession.produced_of_produce moved
    obtain ⟨calls, takings⟩ := produced.frame
    have whole := p.base.produce_with p.live.calls p.live.takings
    rw [moved] at whole
    refine .inl (.producer (LiveSession.produced_of_produce (whole.trans ?_)))
    simp only [live, Option.map_some, calls, takings]
  | consume index patient =>
    simp only [step, bind, Option.bind_eq_some_iff] at stepped
    obtain ⟨c, found, ⟨l, c'⟩, moved, same⟩ := stepped
    cases same
    exact tended_of_consume found (LiveConsumer.stepped_of_step moved)
  | interrupt =>
    cases stepped
    exact .inr ⟨_, .refl _, rfl⟩
  | supervise now => exact tended_of_supervise (supervised_of_supervise stepped)
  | outside world =>
    cases stepped
    exact .inl .outside

theorem asked_of_step {action : LivePipelineAction σ} (stepped : p.step action = some p') :
    p'.asked = p.asked := by
  cases action with
  | produce =>
    simp only [step, bind, Option.bind_eq_some_iff] at stepped
    obtain ⟨l, _, same⟩ := stepped
    cases same
    rfl
  | consume index patient =>
    simp only [step, bind, Option.bind_eq_some_iff] at stepped
    obtain ⟨c, _, ⟨l, c'⟩, _, same⟩ := stepped
    cases same
    rfl
  | supervise now => cases supervised_of_supervise stepped <;> rfl
  | interrupt | outside =>
    cases stepped
    rfl

end LivePipeline
end CaptureQueue
