import CaptureQueue.Proofs.Session.Lifecycle

/-! How the failure of a capture comes to be told. Whatever breaks the producer, one stop reports it,
as a failure of the source; all others report nothing. What keeps a start from opening is told by
that start alone. -/

set_option autoImplicit false
namespace CaptureQueue

variable {σ τ : Type}

/-! ## What fails, and with which text -/

namespace CaptureError

def failureText : CaptureError → String
  | .sourceFailure reason => reason
  | e => e.message

theorem asSourceFailure_eq (e : CaptureError) : e.asSourceFailure = .sourceFailure e.failureText := by
  cases e <;> rfl

end CaptureError

namespace Fault

def failureText (fault : Fault) : String := "producer thread panicked: " ++ fault.text

def closingText : String := "producer thread panicked"

theorem brokenError_eq : Session.brokenError = CaptureError.sourceFailure ∘ failureText := rfl

end Fault

namespace Ingest

def fault? : Ingest → Option Fault
  | .settle _ (.error fault) | .release (.error fault) | .leave (.error fault)
  | .done (.error fault) => some fault
  | _ => none

/-- The fault that the next step meets: a predicate or the strategy breaks. -/
def breaks? (s : SharedQueue) : Ingest → Option Fault
  | .judge p =>
    match s.filters.firstRejection p with
    | .error fault => some fault
    | .ok _ => none
  | .decide p =>
    match (s.queue.queue.offer p).2 with
    | .error fault => some fault
    | .ok _ => none
  | _ => none

theorem step_fault {s s' : SharedQueue} {i i' : Ingest} (stepped : i.step s = some (s', i')) :
    i'.fault? = i.fault?.or (i.breaks? s) := by
  cases i with
  | judge p =>
    simp only [step] at stepped
    split at stepped <;> cases stepped
    all_goals simp [fault?, breaks?, *]
  | enter p =>
    simp only [step] at stepped
    split at stepped <;> cases stepped
    rfl
  | decide p =>
    cases stepped
    cases outcome : (s.queue.queue.offer p).2 <;> simp [fault?, breaks?, outcome]
  | settle asked outcome | release outcome =>
    cases stepped
    cases outcome <;> rfl
  | leave outcome =>
    cases stepped
    cases outcome <;> rfl
  | capture | measure | dismiss | register =>
    cases stepped
    rfl
  | done result => cases stepped

end Ingest

namespace LiveSession

/-- The failure that the next step of the producer meets, by its text. -/
def failing? (l : LiveSession σ τ) : Option String :=
  match l.session.producer with
  | .active .read stream _ =>
    match (l.session.backend.read stream l.world).value.1 with
    | .failed e => some e.failureText
    | .broken fault => some fault.failureText
    | _ => none
  | .active (.ingest data) _ frames =>
    ((l.ingest.getD (.capture { sequence := frames, data := data })).breaks? l.shared).map
      Fault.failureText
  | .active .close stream _ =>
    match (l.session.backend.close stream l.world).value.1.2 with
    | .error _ => some Fault.closingText
    | .ok _ => none
  | _ => none

def failuresAt (l : LiveSession σ τ) : LiveAction σ → List String
  | .produce => l.failing?.toList
  | _ => []

def failures (l : LiveSession σ τ) : List (LiveAction σ) → List String
  | [] => []
  | action :: rest =>
    l.failuresAt action ++ match l.step action with
      | some l' => l'.failures rest
      | none => []

end LiveSession

/-! ## The errands of the producer, one by one -/

namespace LiveSession

section

variable {l : LiveSession σ τ} {stream : τ} {frames : Nat}

theorem errand_poll (on : l.session.producer = .active .poll stream frames) :
    l.errand = { l with session := { l.session with
      producer := .active (if l.session.phase = .capturing then .read else .close) stream frames } } := by
  simp only [errand, Session.produce, on]
  rfl

theorem errand_read (on : l.session.producer = .active .read stream frames) :
    l.errand = { l with
      session := { l.session with
        producer := .active
          (Session.afterRead (l.session.backend.read stream l.world).value.1).value stream frames }
      world := (l.session.backend.read stream l.world).value.2 } := by
  simp only [errand, Session.produce, on]
  rfl

theorem errand_fail {e : CaptureError} (on : l.session.producer = .active (.fail e) stream frames) :
    l.errand = { l with session := { l.session with
      failure := some e, producer := .active .halt stream frames } } := by
  simp only [errand, Session.produce, on]
  rfl

theorem errand_halt (on : l.session.producer = .active .halt stream frames) :
    l.errand = { l with session := { l.session with
      phase := .stopped, producer := .active .close stream frames } } := by
  simp only [errand, Session.produce, on]
  rfl

theorem errand_end (on : l.session.producer = .active .close stream frames) :
    l.errand = { l with
      session := { l.session with
        producer := .ended (l.session.backend.close stream l.world).value.1.2.isOk }
      world := (l.session.backend.close stream l.world).value.2 } := by
  simp only [errand, Session.produce, on, Act.value_bind]
  cases closed : (l.session.backend.close stream l.world).value with
  | mk outcome world =>
    obtain ⟨_, outcome⟩ := outcome
    cases outcome <;> rfl

end

end LiveSession

theorem LiveSession.produce_of_errand {l : LiveSession σ τ} {task : ProducerTask} {stream : τ}
    {frames : Nat} (on : l.session.producer = .active task stream frames)
    (outside : ∀ data, task ≠ .ingest data) :
    ∃ closed, l.produce = some { l.errand with closed := closed } ∧
      l.errand.session.producer.present = true := by
  unfold produce
  cases task with
  | ingest data => exact absurd rfl (outside data)
  | close => exact ⟨_, by rw [on], by rw [errand_end on]; rfl⟩
  | poll => exact ⟨_, by rw [on], by rw [errand_poll on]; rfl⟩
  | read => exact ⟨_, by rw [on], by rw [errand_read on]; rfl⟩
  | fail => exact ⟨_, by rw [on], by rw [errand_fail on]; rfl⟩
  | halt => exact ⟨_, by rw [on], by rw [errand_halt on]; rfl⟩

/-! ## What is still to be told -/

namespace Call

def answer? : Call τ → Option (Except CaptureError Unit)
  | .stopped result => some result
  | _ => none

def told : Call τ → List CaptureError
  | .stopped (.error e) => [e]
  | _ => []

theorem concluded_of_told {c : Call τ} (told : c.told ≠ []) : c.concluded = true := by
  cases c <;> first | rfl | exact absurd rfl told

end Call

namespace LiveSession

/-- The failure that the producer has met and not kept yet. -/
def unkept? (l : LiveSession σ τ) : Option CaptureError :=
  match l.session.producer with
  | .active (.fail e) _ _ => some e
  | .active (.ingest _) _ _ => (l.ingest.bind Ingest.fault?).map Session.brokenError
  | .ended false => some (.sourceFailure Fault.closingText)
  | _ => none

/-- The failure that the next stop to return has to tell. -/
def due? (l : LiveSession σ τ) : Option CaptureError := l.session.failure.or l.unkept?

/-- Nothing is kept while the capture goes on, or before its failure is kept. -/
def Unmarked (l : LiveSession σ τ) : Prop :=
  ∀ task stream frames, l.session.producer = .active task stream frames →
    (task.captures = true ∨ ∃ e, task = .fail e) → l.session.failure = none

variable {l l' : LiveSession σ τ}

theorem due_congr (failure : l'.session.failure = l.session.failure)
    (producer : l'.session.producer = l.session.producer) (ingest : l'.ingest = l.ingest) :
    l'.due? = l.due? := by
  unfold due? unkept?
  rw [failure, producer, ingest]

theorem Unmarked.congr (h : l.Unmarked) (failure : l'.session.failure = l.session.failure)
    (producer : l'.session.producer = l.session.producer) : l'.Unmarked := by
  unfold Unmarked
  rw [failure, producer]
  exact h

theorem due_of_absent (absent : l.session.producer = .absent) : l.due? = l.session.failure := by
  unfold due? unkept?
  rw [absent]
  exact Option.or_none

/-- A step of the producer adds the failure that it meets, unless one came before. -/
theorem due_produce (unmarked : l.Unmarked)
    (inside : l.ingest ≠ none →
      ∃ data stream frames, l.session.producer = .active (.ingest data) stream frames)
    (stepped : l.produce = some l') :
    l'.due? = l.due?.or (l.failing?.map .sourceFailure) ∧ l'.Unmarked := by
  unfold produce at stepped
  cases on : l.session.producer with
  | absent | ended => simp [on] at stepped
  | active task stream frames =>
    have kept := unmarked task stream frames on
    have outside : (∀ data, task ≠ .ingest data) → l.ingest = none := by
      intro other
      by_contra within
      obtain ⟨data, _, _, same⟩ := inside within
      cases on.symm.trans same
      exact other data rfl
    rw [on] at stepped
    cases task with
    | poll =>
      have empty := kept (.inl rfl)
      cases stepped
      rw [errand_poll on]
      refine ⟨?_, fun _ _ _ _ _ => empty⟩
      by_cases capturing : l.session.phase = .capturing <;>
        simp [due?, unkept?, failing?, on, empty, capturing]
    | read =>
      have empty := kept (.inl rfl)
      have none := outside (by simp)
      cases stepped
      rw [errand_read on]
      refine ⟨?_, fun _ _ _ _ _ => empty⟩
      simp only [due?, unkept?, failing?, on, empty, none]
      cases (l.session.backend.read stream l.world).value.1 with
      | frame data | idle | broken fault => rfl
      | failed e => exact congrArg some (CaptureError.asSourceFailure_eq e)
    | ingest data =>
      have empty := kept (.inl rfl)
      simp only at stepped
      split at stepped
      case h_1 stage through | h_2 stage fault through =>
        cases stepped
        have through := through_of_getD through
        refine ⟨?_, fun _ _ _ _ _ => empty⟩
        simp [due?, unkept?, failing?, on, empty, through, Ingest.fault?, Ingest.breaks?]
      case h_3 =>
        simp only [bind, Option.bind_eq_some_iff] at stepped
        obtain ⟨⟨s, i⟩, moved, same⟩ := stepped
        cases same
        have fault := Ingest.step_fault moved
        refine ⟨?_, fun _ _ _ _ _ => empty⟩
        simp only [due?, unkept?, failing?, on, empty, withShared, Option.none_or, Option.bind_some,
          fault]
        cases l.ingest with
        | none => simp [Ingest.fault?, Ingest.breaks?]
        | some j =>
          simp only [Option.getD_some, Option.bind_some, Option.map_map, ← Fault.brokenError_eq]
          cases j.fault? <;> simp
    | fail e =>
      have empty := kept (.inr ⟨e, rfl⟩)
      cases stepped
      rw [errand_fail on]
      refine ⟨by simp [due?, unkept?, failing?, on, empty], fun _ _ _ now goes => ?_⟩
      cases now
      simp [ProducerTask.captures] at goes
    | halt =>
      cases stepped
      rw [errand_halt on]
      refine ⟨by simp [due?, unkept?, failing?, on], fun _ _ _ now goes => ?_⟩
      cases now
      simp [ProducerTask.captures] at goes
    | close =>
      cases stepped
      rw [errand_end on]
      refine ⟨?_, fun _ _ _ now => by cases now⟩
      simp only [due?, unkept?, failing?, on, Option.or_none]
      cases (l.session.backend.close stream l.world).value.1.2 with
      | ok _ => simp [Except.isOk, Except.toBool]
      | error fault => rfl

end LiveSession

/-! ## What calls do with it -/

namespace Call

variable {l l' : LiveSession σ τ} {c c' : Call τ}

theorem told_of_step (stepped : c.step l = some (l', c')) : c.told = [] := by
  cases c <;> first | rfl | cases stepped

theorem step_due (alone : c.streams ≠ [] → l.due? = none ∧ l.session.failure = none)
    (through : c.concluded = true → l.session.producer = .absent) (unmarked : l.Unmarked)
    (stepped : c.step l = some (l', c')) :
    c'.told ++ l'.due?.toList = l.due?.toList ∧ l'.Unmarked ∧
      ∀ result, c' = .stopped result → l'.session.failure = none := by
  cases c with
  | startSpawn stream =>
    obtain ⟨nothing, empty⟩ := alone (by simp [streams])
    cases stepped
    refine ⟨?_, fun _ _ _ _ _ => empty, by simp⟩
    rw [nothing]
    simp [LiveSession.due?, LiveSession.unkept?, empty, told]
  | stopJoin =>
    simp only [step] at stepped
    split at stepped <;> cases stepped
    case h_1 clean on =>
      refine ⟨?_, ?_, by simp⟩
      · cases clean <;> cases kept : l.session.failure <;>
          simp [LiveSession.due?, LiveSession.unkept?, Session.join, on, kept, told, Fault.closingText,
            bind, Traced.bind, pure]
      · obtain ⟨failure, joined⟩ := Session.join_ended on
        rw [joined]
        intro _ _ _ now
        cases now
  | stopReport =>
    have absent := through rfl
    cases stepped
    refine ⟨?_, ?_, fun _ _ => rfl⟩
    · have rest : LiveSession.due? { l with session := l.session.takeFailure.1 } = none :=
        LiveSession.due_of_absent absent
      rw [rest, LiveSession.due_of_absent absent]
      cases kept : l.session.failure <;> simp [Session.takeFailure, kept, told]
    · intro _ _ _ now
      cases absent.symm.trans now
  | _ =>
    cases called_of_step stepped <;> exact ⟨rfl, unmarked, by simp⟩

end Call

/-! ## The invariant -/

/-- What has been told and what is due make up the first failure. -/
structure Owing (l : LiveSession σ τ) (failures : List String) (calls : List (Call τ)) : Prop where
  told : (calls.flatMap Call.told ++ l.due?.toList).Perm
    (failures.head?.map CaptureError.sourceFailure).toList
  unmarked : l.Unmarked
  early : l.spawnings = 0 → failures = []
  taken : ∀ result, .stopped result ∈ calls → l.session.failure = none

namespace Owing

variable {l l' : LiveSession σ τ} {failures : List String} {c c' : Call τ}
  {calls others : List (Call τ)}

theorem start {s : Session σ τ} (fresh : s.Fresh) (kept : s.failure = none) (world : σ) :
    Owing (.ofSession s world) [] [] := by
  have absent : (LiveSession.ofSession s world).session.producer = .absent := fresh.producer
  have nothing : (LiveSession.ofSession s world).due? = none :=
    (LiveSession.due_of_absent absent).trans kept
  refine ⟨?_, ?_, fun _ => rfl, fun _ member => by cases member⟩
  · rw [nothing]
    exact .refl _
  · intro _ _ _ now
    cases absent.symm.trans now

theorem perm (h : Owing l failures calls) (same : calls.Perm others) : Owing l failures others :=
  ⟨((same.flatMap_right _).symm.append_right _).trans h.told, h.unmarked, h.early,
    fun result member => h.taken result (same.mem_iff.mpr member)⟩

theorem failures_eq_nil (h : Owing l failures calls) (nothing : l.due? = none)
    (silent : ∀ c ∈ calls, c.told = []) : failures = [] := by
  have told := h.told
  rw [nothing, List.flatMap_eq_nil_iff.mpr silent] at told
  cases failures with
  | nil => rfl
  | cons first rest => exact absurd told.length_eq (by simp)

theorem due_eq_none (h : Owing l [] calls) : l.due? = none := by
  have told := h.told
  cases due : l.due? with
  | none => rfl
  | some e =>
    rw [due] at told
    exact absurd told.length_eq (by simp)

-- While there is a producer no stop has told anything, so what is due is all that has failed.
theorem produce (h : Owing l failures l.calls) (lawful : l.Lawful) (stepped : l.produce = some l') :
    Owing l' (failures ++ l.failing?.toList) l'.calls := by
  have produced := LiveSession.produced_of_produce stepped
  obtain ⟨due, unmarked⟩ := LiveSession.due_produce h.unmarked lawful.orderly.inside stepped
  have present : l.session.producer ≠ .absent := by
    intro absent
    simp [LiveSession.produce, absent] at stepped
  have unconcluded : ∀ c ∈ l.calls, c.concluded = false := by
    intro c member
    by_contra concluded
    exact present (lawful.ended c member (Bool.not_eq_false _ ▸ concluded)).absent
  have silent : ∀ c ∈ l.calls, c.told = [] := by
    intro c member
    by_contra told
    have concluded := Call.concluded_of_told told
    rw [unconcluded c member] at concluded
    cases concluded
  rw [produced.frame.1]
  refine ⟨?_, unmarked, ?_, ?_⟩
  · have told := h.told
    rw [List.flatMap_eq_nil_iff.mpr silent] at told ⊢
    rw [due]
    cases before : l.due? with
    | none =>
      rw [h.failures_eq_nil before silent]
      cases l.failing? <;> exact .refl _
    | some e =>
      rw [before] at told
      cases failures with
      | nil => exact absurd told.length_eq (by simp)
      | cons first rest => exact told
  · intro none
    have same : l'.spawnings = l.spawnings := by cases produced <;> rfl
    exact absurd (same.symm.trans none) (lawful.orderly.spawned present)
  · intro result member
    have concluded := unconcluded _ member
    cases concluded

theorem call_step (h : Owing l failures (c :: others)) (orderly : Orderly l (c :: others))
    (ended : ∀ d ∈ c :: others, d.concluded = true → l.session.producer = .absent)
    (stepped : c.step l = some (l', c')) : Owing l' failures (c' :: others) := by
  have alone : c.streams ≠ [] → l.due? = none ∧ l.session.failure = none := by
    intro opened
    have nothing := h.early (orderly.alone opened).1
    subst nothing
    have nothing := h.due_eq_none
    exact ⟨nothing, (Option.or_eq_none_iff.mp nothing).1⟩
  obtain ⟨due, unmarked, taken⟩ :=
    Call.step_due alone (ended c List.mem_cons_self) h.unmarked stepped
  have silent := Call.told_of_step stepped
  refine ⟨?_, unmarked, ?_, ?_⟩
  · have told := h.told
    rw [List.flatMap_cons, silent, List.nil_append, ← due] at told
    rw [List.flatMap_cons, List.append_assoc]
    exact (List.perm_append_comm_assoc _ _ _).trans told
  · intro none
    apply h.early
    rcases Call.step_producer stepped with ⟨_, same⟩ | ⟨_, _, _, more⟩ | ⟨_, _, _, same⟩
    · rw [← same, none]
    · omega
    · rw [← same, none]
  · intro result member
    rcases List.mem_cons.mp member with now | other
    · exact taken result now.symm
    · have member := List.mem_cons_of_mem c other
      have before : l.due? = none :=
        (LiveSession.due_of_absent (ended _ member rfl)).trans (h.taken result member)
      rw [before] at due
      have after : l'.due? = none := by
        cases after : l'.due? with
        | none => rfl
        | some e =>
          rw [after] at due
          exact absurd (congrArg List.length due) (by simp)
      exact (Option.or_eq_none_iff.mp after).1

theorem congr (h : Owing l failures calls) (failure : l'.session.failure = l.session.failure)
    (producer : l'.session.producer = l.session.producer) (ingest : l'.ingest = l.ingest)
    (spawnings : l'.spawnings = l.spawnings) : Owing l' failures calls where
  told := by rw [LiveSession.due_congr failure producer ingest]; exact h.told
  unmarked := h.unmarked.congr failure producer
  early := by rw [spawnings]; exact h.early
  taken := by rw [failure]; exact h.taken

theorem begin_call (h : Owing l failures calls) (new : c = .startLock ∨ c = .stopMark) :
    Owing l failures (c :: calls) := by
  rcases new with rfl | rfl
  all_goals
    exact ⟨h.told, h.unmarked, h.early, fun result member => h.taken result (by simpa using member)⟩

theorem step {action : LiveAction σ} (h : Owing l failures l.calls) (lawful : l.Lawful)
    (stepped : l.step action = some l') : Owing l' (failures ++ l.failuresAt action) l'.calls := by
  cases action with
  | produce => exact h.produce lawful stepped
  | start =>
    cases stepped
    have begun := (h.begin_call (.inl rfl)).perm (List.perm_append_singleton _ _).symm
    exact (List.append_nil failures).symm ▸ begun.congr rfl rfl rfl rfl
  | stop =>
    cases stepped
    have begun := (h.begin_call (.inr rfl)).perm (List.perm_append_singleton _ _).symm
    exact (List.append_nil failures).symm ▸ begun.congr rfl rfl rfl rfl
  | call index =>
    obtain ⟨c, c', others, after, calls, moved, rfl, was, now⟩ := LiveSession.exists_call stepped
    have ended : ∀ d ∈ c :: others, d.concluded = true → l.session.producer = .absent :=
      fun d member concluded => (lawful.ended d (was.mem_iff.mpr member) concluded).absent
    have told := ((h.perm was).call_step (lawful.orderly.perm was) ended moved).perm now.symm
    exact (List.append_nil failures).symm ▸ told.congr rfl rfl rfl rfl
  | beginTaking | outside =>
    cases stepped
    exact (List.append_nil failures).symm ▸ h.congr rfl rfl rfl rfl
  | take index =>
    simp only [LiveSession.step, bind, Option.bind_eq_some_iff] at stepped
    obtain ⟨t, _, ⟨s, t'⟩, _, same⟩ := stepped
    cases same
    exact (List.append_nil failures).symm ▸ h.congr rfl rfl rfl rfl
  | edit e =>
    simp only [LiveSession.step, bind, Option.bind_eq_some_iff] at stepped
    obtain ⟨s, _, same⟩ := stepped
    cases same
    exact (List.append_nil failures).symm ▸ h.congr rfl rfl rfl rfl

theorem run {actions : List (LiveAction σ)} (h : Owing l failures l.calls) (lawful : l.Lawful)
    (ran : l.run actions = some l') : Owing l' (failures ++ l.failures actions) l'.calls := by
  induction actions generalizing l failures with
  | nil =>
    cases ran
    rw [LiveSession.failures, List.append_nil]
    exact h
  | cons action rest ih =>
    simp only [LiveSession.run, List.foldlM_cons, bind, Option.bind_eq_some_iff] at ran
    obtain ⟨next, stepped, ran⟩ := ran
    have after := ih (h.step lawful stepped) (lawful.acted (LiveSession.acted_of_step stepped)) ran
    rw [LiveSession.failures, stepped, ← List.append_assoc]
    exact after

end Owing

/-! ## A start that could not open -/

namespace LiveSession

variable {l l' : LiveSession σ τ}

def Unopened (l : LiveSession σ τ) : Prop := l.openings = 1 ∧ l.opened = []

theorem Unopened.acted (h : l.Unopened) (orderly : Orderly l l.calls) (acted : l.Acted l') :
    l'.Unopened := by
  have after := orderly.acted acted
  cases acted with
  | producer produced => cases produced <;> exact h
  | @call c c' others calls m stepped was now =>
    have before := orderly.perm was
    obtain ⟨_, few⟩ := Call.step_openings stepped
    obtain ⟨added, more, _⟩ := Call.step_streams (fun opened => (before.alone opened).2) stepped
    have asked : m.openings + calls.countP Call.opens = calls.countP Call.passed := after.openings
    have passed : calls.countP Call.passed ≤ 1 := after.passed_le
    obtain ⟨one, none⟩ := h
    rw [more, none, List.nil_append, List.length_nil] at few
    have empty : added = [] := List.eq_nil_of_length_eq_zero (by omega)
    have same : m.openings = 1 := by omega
    exact ⟨same, by rw [more, none, empty]; rfl⟩
  | beginCall | beginTaking | taking | edited | outside => exact h

def Refused (l : LiveSession σ τ) (index : Nat) (e : CaptureError) : Prop :=
  l.calls[index]? = some (.startFail e) ∨
    l.session.phase = .stopped ∧ (l.calls[index]? = some (.startUnlock true (.error e)) ∨
      l.calls[index]? = some (.started true (.error e)))

theorem call_of_step {action : LiveAction σ} {index : Nat} {c : Call τ}
    (stepped : l.step action = some l') (found : l.calls[index]? = some c) :
    l'.calls[index]? = some c ∨ ∃ after c', c.step l = some (after, c') ∧
      l'.session = after.session ∧ l'.calls[index]? = some c' := by
  have bound : index < l.calls.length := (List.getElem?_eq_some_iff.mp found).1
  cases action with
  | produce => exact .inl ((produced_of_produce stepped).frame.1 ▸ found)
  | start | stop =>
    cases stepped
    exact .inl ((List.getElem?_append_left bound).trans found)
  | call other =>
    simp only [step, bind, Option.bind_eq_some_iff] at stepped
    obtain ⟨d, present, ⟨after, d'⟩, moved, same⟩ := stepped
    cases same
    rw [(Call.step_frame moved).2.2.2]
    by_cases same : other = index
    · subst same
      cases present.symm.trans found
      exact .inr ⟨after, d', moved, rfl, List.getElem?_set_self bound⟩
    · exact .inl ((List.getElem?_set_ne same).trans found)
  | beginTaking | outside =>
    cases stepped
    exact .inl found
  | take other =>
    simp only [step, bind, Option.bind_eq_some_iff] at stepped
    obtain ⟨t, _, ⟨s, t'⟩, _, same⟩ := stepped
    cases same
    exact .inl found
  | edit e =>
    simp only [step, bind, Option.bind_eq_some_iff] at stepped
    obtain ⟨s, _, same⟩ := stepped
    cases same
    exact .inl found

theorem Refused.step {action : LiveAction σ} {index : Nat} {e : CaptureError}
    (h : l.Refused index e) (stepped : l.step action = some l') : l'.Refused index e := by
  have phase := (acted_of_step stepped).phase
  rcases h with failing | ⟨stopped, leaving | left⟩
  · rcases call_of_step stepped failing with same | ⟨after, c', moved, session, now⟩
    · exact .inl same
    · cases moved
      exact .inr ⟨by rw [session], .inl now⟩
  all_goals
    rw [stopped] at phase
    have stopped := Phase.eq_stopped_of_leads phase
  · rcases call_of_step stepped leaving with same | ⟨after, c', moved, _, now⟩
    · exact .inr ⟨stopped, .inl same⟩
    · cases moved
      exact .inr ⟨stopped, .inr now⟩
  · rcases call_of_step stepped left with same | ⟨after, c', moved, _⟩
    · exact .inr ⟨stopped, .inr same⟩
    · cases moved

end LiveSession

/-! ## Whole runs -/

theorem Call.answers_perm (calls : List (Call τ)) :
    ∃ n, (calls.filterMap answer?).Perm
      ((calls.flatMap told).map .error ++ List.replicate n (.ok ())) := by
  induction calls with
  | nil => exact ⟨0, .refl _⟩
  | cons c calls ih =>
    obtain ⟨n, same⟩ := ih
    simp only [List.flatMap_cons, List.map_append, List.append_assoc]
    cases c with
    | stopped result =>
      rw [List.filterMap_cons_some (show answer? (.stopped result) = some result from rfl)]
      cases result with
      | error e => exact ⟨n, same.cons (.error e)⟩
      | ok _ => exact ⟨n + 1, (same.cons (.ok ())).trans List.perm_middle.symm⟩
    | _ => exact ⟨n, same⟩

namespace Owing

variable {l : LiveSession σ τ} {failures : List String}

theorem answers_ok (h : Owing l [] l.calls) : ∀ a ∈ l.calls.filterMap Call.answer?, a = .ok () := by
  obtain ⟨n, answers⟩ := Call.answers_perm l.calls
  have told := h.told
  rw [h.due_eq_none] at told
  have silent : l.calls.flatMap Call.told = [] := by simpa using told.eq_nil
  rw [silent] at answers
  intro a member
  exact List.eq_of_mem_replicate (answers.mem_iff.mp member)

theorem answers_first {first : String} {rest : List String} (h : Owing l (first :: rest) l.calls)
    (lawful : l.Lawful) (answered : l.calls.filterMap Call.answer? ≠ []) :
    ∃ n, (l.calls.filterMap Call.answer?).Perm
      (.error (.sourceFailure first) :: List.replicate n (.ok ())) := by
  obtain ⟨n, answers⟩ := Call.answers_perm l.calls
  obtain ⟨a, member⟩ := List.exists_mem_of_ne_nil _ answered
  obtain ⟨c, present, answer⟩ := List.mem_filterMap.mp member
  have returned : .stopped a ∈ l.calls := by
    cases c <;> cases answer
    exact present
  have absent := (lawful.ended _ returned rfl).absent
  have nothing : l.due? = none := (LiveSession.due_of_absent absent).trans (h.taken a returned)
  have told := h.told
  rw [nothing, Option.toList_none, List.append_nil] at told
  exact ⟨n, answers.trans ((told.map Except.error).append_right _)⟩

end Owing

namespace LiveSession

variable {l : LiveSession σ τ}

theorem run_append {l l' : LiveSession σ τ} {earlier later : List (LiveAction σ)} :
    l.run (earlier ++ later) = some l' ↔ ∃ m, l.run earlier = some m ∧ m.run later = some l' := by
  simp only [run, List.foldlM_append, bind, Option.bind_eq_some_iff]

theorem Refused.run {l l' : LiveSession σ τ} {actions : List (LiveAction σ)} {index : Nat}
    {e : CaptureError} (h : l.Refused index e) (ran : l.run actions = some l') :
    l'.Refused index e := by
  have kept : ∀ (m : LiveSession σ τ) action m', m.Refused index e → m.step action = some m' →
      m'.Refused index e := fun _ _ _ held stepped => held.step stepped
  exact holds_of_steps kept h ran

-- The start that asks is the one that has passed the transition, and no other can ask after it.
theorem Lawful.unopened_of_step {l l' : LiveSession σ τ} {index : Nat} {e : CaptureError}
    (h : l.Lawful) (asks : l.calls[index]? = some .startOpen)
    (failed : (l.session.backend.openOn l.session.interface l.session.options l.world).value.1 =
      .error e) (stepped : l.step (.call index) = some l') : l'.Unopened ∧ l'.Refused index e := by
  have bound : index < l.calls.length := (List.getElem?_eq_some_iff.mp asks).1
  obtain ⟨others, was, _⟩ := exists_others asks
  have orderly := h.orderly.perm was
  have openings := orderly.openings
  have passed := orderly.passed_le
  have opened := orderly.opened
  simp only [countP_cons_toNat, Call.opens, Call.passed, Bool.toNat_true] at openings passed
  have none : l.opened = [] := List.eq_nil_of_length_eq_zero (by omega)
  cases outcome : (l.session.backend.openOn l.session.interface l.session.options l.world).value with
  | mk result world =>
    rw [outcome] at failed
    cases failed
    simp only [step, asks, bind, Option.bind_some, Call.step, outcome] at stepped
    cases stepped
    exact ⟨⟨by simp only; omega, none⟩, .inl (List.getElem?_set_self bound)⟩

/-- Once a stop has returned after something failed, one stop has told the first failure, as one of
the source, and all others have told none; without a failure all tell none. A start that could not
open tells why, and no stop does. -/
theorem failure_reported_once {config : Config} {backend : Backend σ τ} {before world : σ}
    {session : Session σ τ} {actions : List (LiveAction σ)}
    (made : (Session.create config backend before).value.1 = .ok (.ok session))
    (ran : (ofSession session world).run actions = some l) :
    let failures := (ofSession session world).failures actions
    let answers := l.calls.filterMap Call.answer?
    (failures = [] → ∀ a ∈ answers, a = .ok ()) ∧
    (∀ first rest, failures = first :: rest → answers ≠ [] →
      ∃ n, answers.Perm (.error (.sourceFailure first) :: List.replicate n (.ok ()))) ∧
    ∀ earlier index later m e, actions = earlier ++ .call index :: later →
      (ofSession session world).run earlier = some m → m.calls[index]? = some .startOpen →
      (m.session.backend.openOn m.session.interface m.session.options m.world).value.1 = .error e →
      l.Refused index e ∧ failures = [] ∧ ∀ a ∈ answers, a = .ok () := by
  intro failures answers
  have fresh := Session.create_fresh made
  have kept : session.failure = none := by
    obtain ⟨_, _, _, rfl⟩ := Session.create_eq_ok made
    rfl
  have first := Lawful.start fresh world
  have lawful : l.Lawful := first.run ran
  have owing : Owing l failures l.calls := (Owing.start fresh kept world).run first ran
  refine ⟨?_, ?_, ?_⟩
  · intro none
    rw [none] at owing
    exact owing.answers_ok
  · intro first rest same answered
    rw [same] at owing
    exact owing.answers_first lawful answered
  · intro earlier index later m e same reached asks failed
    rw [same] at ran
    obtain ⟨m', came, ran⟩ := run_append.mp ran
    cases reached.symm.trans came
    simp only [run, List.foldlM_cons, bind, Option.bind_eq_some_iff] at ran
    obtain ⟨next, stepped, ran⟩ := ran
    have lawfulThen : m.Lawful := first.run reached
    obtain ⟨unopened, refused⟩ := lawfulThen.unopened_of_step asks failed stepped
    have kept : ∀ n n' : LiveSession σ τ, n.Lawful ∧ n.Unopened → n.Acted n' →
        n'.Lawful ∧ n'.Unopened := by
      rintro n n' ⟨lawful, unopened⟩ acted
      exact ⟨lawful.acted acted, unopened.acted lawful.orderly acted⟩
    have unopened : l.Unopened :=
      (holds_of_run kept ⟨lawfulThen.acted (acted_of_step stepped), unopened⟩ ran).2
    have spawned := lawful.orderly.spawnings
    rw [unopened.2, List.length_nil] at spawned
    have none : failures = [] := owing.early (by omega)
    rw [none] at owing
    exact ⟨refused.run ran, none, owing.answers_ok⟩

/-- A source that fails after one frame, and breaks when it is closed: of two stops that overlap, the
later one tells the first of the two failures. -/
theorem failure_reported_once_of_overlap :
    let host : ScriptedHost := {
      interfaces := .ofList ["eth0"], closeFault := some (.ofText "closing") }
    let script : Script := { readings := [.frame [1, 2], .failed (.permissionDenied "gone")] }
    let actions : List (LiveAction Script) := List.flatten [
      [.start, .stop, .stop], .replicate 6 (.call 0), .replicate 14 .produce,
      .replicate 3 (.call 1), .replicate 3 .produce, .replicate 2 (.call 1),
      .replicate 5 (.call 2), [.call 1]]
    ∃ session l, (Session.create { capture := { interface := some (.name "eth0") } } host.backend
        {}).value.1 = .ok (.ok session) ∧
      (ofSession session script).run actions = some l ∧
      (ofSession session script).failures actions =
        ["Permission denied: gone", "producer thread panicked"] ∧
      l.calls.filterMap Call.answer? =
        [.ok (), .error (.sourceFailure "Permission denied: gone")] ∧
      ∃ n, (l.calls.filterMap Call.answer?).Perm
        (.error (.sourceFailure "Permission denied: gone") :: List.replicate n (.ok ())) := by
  intro host script actions
  obtain ⟨session, made⟩ : ∃ session, (Session.create
      { capture := { interface := some (.name "eth0") } } host.backend {}).value.1 =
        .ok (.ok session) := ⟨_, rfl⟩
  obtain ⟨l, ran, answers⟩ : ∃ l, (ofSession session script).run actions = some l ∧
      l.calls.filterMap Call.answer? =
        [.ok (), .error (.sourceFailure "Permission denied: gone")] := by
    rw [← Option.map_eq_some_iff]
    cases made
    decide +kernel
  have failures : (ofSession session script).failures actions =
      ["Permission denied: gone", "producer thread panicked"] := by
    cases made
    decide +kernel
  obtain ⟨_, told, _⟩ := failure_reported_once made ran
  exact ⟨session, l, made, ran, failures, answers, told _ _ failures (by simp [answers])⟩

end LiveSession
end CaptureQueue
