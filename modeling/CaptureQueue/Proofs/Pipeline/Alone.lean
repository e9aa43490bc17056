import CaptureQueue.Proofs.Pipeline.Live

/-! Pipelines whose threads do not interrupt each other in the middle of an operation. What they do
step by step comes to what a pipeline does at once, so whatever holds of all schedules of single
steps holds of its runs. -/

set_option autoImplicit false
namespace CaptureQueue

variable {σ τ : Type}

theorem LiveConsumer.step_of_taking {l : LiveSession σ τ} {s : SharedQueue} {t t' : Taking}
    (consuming patient left : Bool) (consumed : Nat) (moved : t.step l.shared = some (s, t')) :
    step l consuming patient { task := .take left t, consumed := consumed } =
      some (l.withShared s, { task := .take left t', consumed := consumed }) := by
  unfold step
  cases t with
  | done packets => cases moved
  | _ =>
    simp only [moved]
    rfl

namespace LivePipeline

/-! ## Several steps of one thread -/

/-- Some schedule of single steps leads from one to the other. -/
def Reaches (p p' : LivePipeline σ τ) : Prop := ∃ actions, p.run actions = some p'

namespace Reaches

variable {p p' p'' : LivePipeline σ τ}

theorem refl (p : LivePipeline σ τ) : p.Reaches p := ⟨[], rfl⟩

theorem single (action : LivePipelineAction σ) (stepped : p.step action = some p') :
    p.Reaches p' := ⟨[action], by simp [run, stepped]⟩

theorem trans (h : p.Reaches p') (h' : p'.Reaches p'') : p.Reaches p'' := by
  obtain ⟨first, ran⟩ := h
  obtain ⟨second, ran'⟩ := h'
  refine ⟨first ++ second, ?_⟩
  simp only [run, List.foldlM_append] at ran ran' ⊢
  simp [ran, ran']

theorem lift {α : Type} {r : α → α → Prop} (whole : α → LivePipeline σ τ)
    (one : ∀ a b, r a b → (whole a).Reaches (whole b)) {a b : α}
    (work : Relation.ReflTransGen r a b) : (whole a).Reaches (whole b) := by
  induction work with
  | refl => exact .refl _
  | tail _ next ih => exact ih.trans (one _ _ next)

end Reaches

variable {p : LivePipeline σ τ}

section

variable {data : Bytes} {stream : τ} {frames : Nat} {s : SharedQueue} {i i' : Ingest}

theorem step_of_ingest (on : p.base.session.producer = .active (.ingest data) stream frames)
    (inside : p.base.ingest.getD (.capture { sequence := frames, data := data }) = i)
    (moved : i.step p.base.shared = some (s, i')) :
    p.step .produce = some { p with base := { p.base.withShared s with ingest := some i' } } := by
  have nothing : p.base.keeping? = none := by simp [LiveSession.keeping?, on]
  simp only [step, nothing, LiveSession.produce_of_next on inside moved]
  rfl

theorem reaches_ingest {result : Except Fault Unit}
    (on : p.base.session.producer = .active (.ingest data) stream frames)
    (outside : p.base.ingest = none)
    (work : Relation.ReflTransGen Ingest.Next
      (p.base.shared, .capture { sequence := frames, data := data }) (s, .done result)) :
    p.Reaches { p with
      base := { p.base.withShared s with
        session := { p.base.session with
          filters := s.filters
          queue := s.queue
          producer := .afterIngest stream frames result } } } := by
  let whole (a : SharedQueue × Ingest) : LivePipeline σ τ :=
    { p with base := { p.base.withShared a.1 with ingest := some a.2 } }
  rcases work.cases_head with same | ⟨first, next, rest⟩
  · cases same
  · have begun : p.step .produce = some (whole first) :=
      step_of_ingest on (by rw [outside]; rfl) next
    have one (a b : SharedQueue × Ingest) (next : Ingest.Next a b) : (whole a).Reaches (whole b) :=
      .single .produce (step_of_ingest (p := whole a) on rfl next)
    have through : (whole first).Reaches (whole (s, .done result)) := .lift whole one rest
    have nothing : (whole (s, .done result)).base.keeping? = none := by
      simp [LiveSession.keeping?, whole, LiveSession.withShared, on]
    refine (Reaches.single .produce begun).trans (through.trans (.single .produce ?_))
    simp only [step, nothing]
    rw [LiveSession.produce_of_through (l := (whole (s, .done result)).base) on rfl]
    simp [whole, LiveSession.withShared, outside]

end

theorem reaches_take {index consumed : Nat} {left : Bool} {s : SharedQueue} {t : Taking}
    {packets : List Packet}
    (found : p.consumers[index]? = some { task := .take left t, consumed := consumed })
    (work : Relation.ReflTransGen Taking.Next (p.base.shared, t) (s, .done packets)) :
    p.Reaches { p with
      base := { p.base.withShared s with takings := p.base.takings ++ [.done packets] }
      consumers := p.consumers.set index {
        task := .after left false packets.head?, consumed := consumed } } := by
  obtain ⟨bound, there⟩ := List.getElem?_eq_some_iff.mp found
  let whole (a : SharedQueue × Taking) : LivePipeline σ τ := { p with
    base := p.base.withShared a.1
    consumers := p.consumers.set index { task := .take left a.2, consumed := consumed } }
  have again (a : SharedQueue × Taking) :
      (whole a).consumers[index]? = some { task := .take left a.2, consumed := consumed } :=
    List.getElem?_set_self bound
  have first : whole (p.base.shared, t) = p := by
    simp only [whole, ← there, List.set_getElem_self]
    rfl
  have through : (whole (p.base.shared, t)).Reaches (whole (s, .done packets)) := by
    refine .lift whole (fun a b next => .single (.consume index false) ?_) work
    have moved := LiveConsumer.step_of_taking (l := (whole a).base) (whole a).consuming false left
      consumed next
    simp only [step, again, bind, Option.bind_some, moved]
    simp [whole, LiveSession.withShared]
  rw [first] at through
  refine through.trans (.single (.consume index false) ?_)
  simp only [step, again, bind, Option.bind_some, LiveConsumer.step]
  simp [whole, LiveSession.withShared]

section

variable {stage : Call τ → LiveSupervisor τ} {c c' : Call τ} {l : LiveSession σ τ}

theorem supervise_of_call {now : Nat} (call : stage = .start ∨ stage = .join)
    (at_it : p.supervisor = stage c) (moved : c.step p.base = some (l, c')) :
    p.supervise now = some { p with base := l, supervisor := stage c' } := by
  unfold supervise
  rw [at_it]
  rcases call with rfl | rfl
  all_goals
    cases c with
    | started | stopped => cases moved
    | _ =>
      simp only [moved]
      rfl

theorem reaches_call (call : stage = .start ∨ stage = .join) (at_it : p.supervisor = stage c)
    (work : Relation.ReflTransGen Call.Next (p.base, c) (l, c')) :
    p.Reaches { p with base := l, supervisor := stage c' } := by
  let whole (a : LiveSession σ τ × Call τ) : LivePipeline σ τ :=
    { p with base := a.1, supervisor := stage a.2 }
  have first : whole (p.base, c) = p := by
    simp only [whole, ← at_it]
  have lifted := Reaches.lift whole (fun a b next => ?_) work
  · rw [first] at lifted
    exact lifted
  · exact .single (.supervise 0) (supervise_of_call (p := whole a) call rfl next)

end

end LivePipeline

/-! ## A pipeline at once and step by step -/

def LiveConsumer.ofConsumer (c : Consumer) : LiveConsumer where
  consumed := c.consumed
  task := match c.task with
    | .look => .look
    | .await => .take false (.enter false)
    | .inspect p => .inspect false p
    | .drain => .take true (.enter false)
    | .inspectLeft p => .inspect true p
    | .done | .broken => .done

theorem LiveConsumer.ofConsumer_done (c : Consumer) :
    (ofConsumer c).task = .done ↔ c.task.isOver = true := by
  obtain ⟨task, consumed⟩ := c
  cases task <;> simp [ofConsumer, ConsumerTask.isOver]

def LiveSupervisor.ofTask : SupervisorTask → LiveSupervisor τ
  | .look => .look
  | .sleep => .sleep
  | .stop => .stop
  | .join _ => .join .stopLock
  | .gather outcome => .gather outcome
  | .done outcome => .done outcome

/-- A pipeline in a world, and one among threads that is in the middle of nothing. -/
structure Pipeline.Matches (p : Pipeline σ τ) (world : σ) (q : LivePipeline σ τ) : Prop where
  session : q.base.session = p.session
  world : q.base.world = world
  outside : q.base.ingest = none
  free : q.base.queueHeld = false
  unlocked : q.base.locked = false
  stored : q.base.stored = p.session.producer.present
  supervisor : q.supervisor = .ofTask p.supervisor
  consumers : q.consumers = p.consumers.map .ofConsumer
  whole : ∀ c ∈ p.consumers, c.task ≠ .broken
  interrupted : q.interrupted = p.interrupted
  consuming : q.consuming = p.consuming
  deadline : q.deadline = p.deadline

namespace Pipeline

variable {p : Pipeline σ τ} {world : σ} {q : LivePipeline σ τ}

theorem Matches.outcome? (h : p.Matches world q) : q.outcome? = p.outcome? := by
  unfold LivePipeline.outcome? Pipeline.outcome?
  rw [h.supervisor]
  cases p.supervisor <;> rfl

theorem Matches.consumed (h : p.Matches world q) : q.consumed = p.consumed := by
  have all : p.consumers.filter (·.task ≠ .broken) = p.consumers := by simpa using h.whole
  rw [LivePipeline.consumed, Pipeline.consumed, all, h.consumers, List.map_map, List.sum_eq_foldl]
  rfl

theorem Matches.all_done (h : p.Matches world q) (all : ∀ c ∈ q.consumers, c.task = .done) :
    ∀ c ∈ p.consumers, c.task = .done := by
  intro c member
  have ended := (LiveConsumer.ofConsumer_done c).mp (all _ (h.consumers ▸ List.mem_map_of_mem member))
  have whole := h.whole c member
  cases task : c.task with
  | done => rfl
  | broken => exact absurd task whole
  | look | await | inspect | drain | inspectLeft => simp [task, ConsumerTask.isOver] at ended

/-- One step of a pipeline among threads matches what the pipeline comes to, or several. -/
def Follows (q : LivePipeline σ τ) (result : Pipeline σ τ × σ) : Prop :=
  ∃ q', q.Reaches q' ∧ result.1.Matches result.2 q'

theorem Matches.ingest {data : Bytes} {stream : τ} {frames : Nat} (h : p.Matches world q)
    (on : p.session.producer = .active (.ingest data) stream frames) :
    Follows q ({ p with session := (p.session.produce world).value.1 },
      (p.session.produce world).value.2) := by
  have here : q.base.session.producer = .active (.ingest data) stream frames := by
    rw [h.session, on]
  obtain ⟨shared, work, released, now⟩ := p.session.ingest_alone q.base.ledger frames data
  have first : q.base.shared =
      { filters := p.session.filters, queue := p.session.queue, ledger := q.base.ledger } := by
    simp only [LiveSession.shared, h.session, h.free]
  rw [← first] at work
  refine ⟨_, LivePipeline.reaches_ingest here h.outside work, ?_⟩
  rw [Session.produce_ingest on]
  refine ⟨?_, h.world, h.outside, released, h.unlocked, ?_, h.supervisor, h.consumers, h.whole,
    h.interrupted, h.consuming, h.deadline⟩
  · simp only [h.session, now]
  · have stored := h.stored
    rw [on] at stored
    refine stored.trans ?_
    cases (p.session.ingest frames data).value.2 <;> rfl

theorem Matches.produce (h : p.Matches world q) :
    Follows q (p.step .produce world).value := by
  have result : (p.step .produce world).value =
      ({ p with session := (p.session.produce world).value.1 },
        (p.session.produce world).value.2) := rfl
  rw [result]
  cases on : p.session.producer with
  | absent | ended =>
    have idle : (p.session.produce world).value = (p.session, world) := by
      simp only [Session.produce, on]
      rfl
    rw [idle]
    exact ⟨q, .refl q, h⟩
  | active task stream frames =>
    have here : q.base.session.producer = .active task stream frames := by rw [h.session, on]
    have stored := h.stored
    rw [on] at stored
    by_cases inside : ∃ data, task = .ingest data
    · obtain ⟨data, rfl⟩ := inside
      exact h.ingest on
    · have outside : ∀ data, task ≠ .ingest data := fun data same => inside ⟨data, same⟩
      obtain ⟨closed, moved, present⟩ := LiveSession.produce_of_errand here outside
      refine ⟨_, .single .produce (by rw [LivePipeline.step, moved]; rfl), ?_⟩
      have same : q.base.errand.session = (p.session.produce world).value.1 := by
        rw [LiveSession.errand, h.session, h.world]
      refine ⟨same, ?_, h.outside, h.free, h.unlocked, ?_, h.supervisor, h.consumers, h.whole,
        h.interrupted, h.consuming, h.deadline⟩
      · simp only [LiveSession.errand, h.session, h.world]
      · rw [same] at present
        exact stored.trans present.symm

theorem Matches.whole_set {index : Nat} {c' : Consumer} (h : p.Matches world q)
    (sound : c'.task ≠ .broken) : ∀ c ∈ p.consumers.set index c', c.task ≠ .broken :=
  fun c member => (List.mem_or_eq_of_mem_set member).elim (h.whole c) fun same => same ▸ sound

theorem Matches.turn {index : Nat} {c c' : Consumer} (h : p.Matches world q)
    (found : p.consumers[index]? = some c) (sound : c'.task ≠ .broken)
    (moved : (LiveConsumer.ofConsumer c).step q.base q.consuming false =
      some (q.base, .ofConsumer c')) :
    Follows q ({ p with consumers := p.consumers.set index c' }, world) := by
  have there : q.consumers[index]? = some (.ofConsumer c) := by
    rw [h.consumers, List.getElem?_map, found]
    rfl
  refine ⟨{ q with consumers := q.consumers.set index (.ofConsumer c') },
    .single (.consume index false) ?_, ?_⟩
  · simp [LivePipeline.step, there, moved]
  · refine ⟨h.session, h.world, h.outside, h.free, h.unlocked, h.stored, h.supervisor, ?_,
      h.whole_set sound, h.interrupted, h.consuming, h.deadline⟩
    simp [h.consumers, List.map_set]

theorem Matches.take {index : Nat} {c c' : Consumer} (h : p.Matches world q) (left : Bool)
    (found : p.consumers[index]? = some c) (sound : c'.task ≠ .broken)
    (takes : LiveConsumer.ofConsumer c =
      { task := .take left (.enter false), consumed := c.consumed })
    (after : LiveConsumer.ofConsumer c' =
      { task := .after left false p.session.dequeue.value.2, consumed := c.consumed }) :
    Follows q ({ p with
      session := p.session.dequeue.value.1, consumers := p.consumers.set index c' }, world) := by
  have there : q.consumers[index]? =
      some { task := .take left (.enter false), consumed := c.consumed } := by
    rw [h.consumers, List.getElem?_map, found, ← takes]
    rfl
  obtain ⟨shared, work, released, filters, queue⟩ := Taking.dequeue_alone q.base.shared h.free
  refine ⟨_, LivePipeline.reaches_take there work, ?_⟩
  have same : q.base.shared.queue = p.session.queue := by rw [← h.session]; rfl
  have result : p.session.dequeue.value =
      ({ p.session with queue := p.session.queue.dequeue.value.1 },
        p.session.queue.dequeue.value.2) := rfl
  rw [result] at after ⊢
  refine ⟨?_, h.world, h.outside, released, h.unlocked, h.stored, h.supervisor, ?_,
    h.whole_set sound, h.interrupted, h.consuming, h.deadline⟩
  · have chain : shared.filters = p.session.filters := by rw [filters, ← h.session]; rfl
    simp only [LiveSession.withShared, h.session, chain, queue, same]
  · simp [h.consumers, List.map_set, after, same]

theorem inspect_value (c : Consumer) (packet : Packet) (next : ConsumerTask) :
    (inspect c packet next).value = { task := next, consumed := c.consumed + 1 } := by
  rw [inspect, inspection_eq]
  rfl

theorem consumeAs_value (p : Pipeline σ τ) (c : Consumer) : (p.consumeAs c).value =
    match c.task with
    | .look => (p, { c with task := if p.consuming then .await else .drain })
    | .await => ({ p with session := p.session.dequeue.value.1 },
        { c with task := (p.session.dequeue.value.2.map .inspect).getD .look })
    | .inspect _ => (p, { task := .look, consumed := c.consumed + 1 })
    | .drain => ({ p with session := p.session.dequeue.value.1 },
        { c with task := (p.session.dequeue.value.2.map .inspectLeft).getD .done })
    | .inspectLeft _ => (p, { task := .drain, consumed := c.consumed + 1 })
    | .done | .broken => (p, c) := by
  obtain ⟨task, consumed⟩ := c
  cases task with
  | inspect packet =>
    rw [← inspect_value { task := .inspect packet, consumed := consumed } packet .look]
    rfl
  | inspectLeft packet =>
    rw [← inspect_value { task := .inspectLeft packet, consumed := consumed } packet .drain]
    rfl
  | look | await | drain | done | broken => rfl

theorem consume_value {index : Nat} {c : Consumer} (found : p.consumers[index]? = some c)
    (world : σ) : (p.step (.consume index) world).value =
      ({ (p.consumeAs c).value.1 with
        consumers := (p.consumeAs c).value.1.consumers.set index (p.consumeAs c).value.2 },
        world) := by
  simp only [Pipeline.step, Act.value_lift, Pipeline.consume, found]
  rfl

theorem Matches.consume (index : Nat) (h : p.Matches world q) :
    Follows q (p.step (.consume index) world).value := by
  cases found : p.consumers[index]? with
  | none =>
    have result : (p.step (.consume index) world).value = (p, world) := by
      simp only [Pipeline.step, Act.value_lift, Pipeline.consume, found]
      rfl
    rw [result]
    exact ⟨q, .refl q, h⟩
  | some c =>
    rw [consume_value found, consumeAs_value]
    obtain ⟨task, consumed⟩ := c
    cases task with
    | look =>
      refine h.turn found (by cases p.consuming <;> simp) ?_
      rw [h.consuming]
      cases p.consuming <;> rfl
    | await =>
      refine h.take false found (by cases p.session.dequeue.value.2 <;> simp) rfl ?_
      cases p.session.dequeue.value.2 <;> rfl
    | drain =>
      refine h.take true found (by cases p.session.dequeue.value.2 <;> simp) rfl ?_
      cases p.session.dequeue.value.2 <;> rfl
    | inspect packet | inspectLeft packet => exact h.turn found (by simp) rfl
    | broken => exact absurd rfl (h.whole _ (List.mem_of_getElem? found))
    | done =>
      obtain ⟨bound, there⟩ := List.getElem?_eq_some_iff.mp found
      dsimp only
      rw [← there, List.set_getElem_self]
      exact ⟨q, .refl q, h⟩

theorem Matches.watch {p' : Pipeline σ τ} (h : p.Matches world q) (now : Nat)
    (next : SupervisorTask)
    (moved : q.supervise now = some { q with supervisor := .ofTask next })
    (same : p'.session = p.session ∧ p'.consumers = p.consumers ∧ p'.supervisor = next ∧
      p'.interrupted = p.interrupted ∧ p'.consuming = p.consuming ∧ p'.deadline = p.deadline) :
    Follows q (p', world) := by
  obtain ⟨session, consumers, supervisor, interrupted, consuming, deadline⟩ := same
  refine ⟨_, .single (.supervise now) moved, ?_⟩
  exact ⟨by rw [session]; exact h.session, h.world, h.outside, h.free, h.unlocked,
    by rw [session]; exact h.stored, by rw [supervisor], by rw [consumers]; exact h.consumers,
    by rw [consumers]; exact h.whole, by rw [interrupted]; exact h.interrupted, by rw [consuming]; exact h.consuming,
    by rw [deadline]; exact h.deadline⟩

theorem wake_value (p : Pipeline σ τ) (now : Nat) : (p.wake now).value =
    if p.session.phase = .stopped ∨ p.deadline.any (· ≤ now) then { p with supervisor := .stop }
    else
      let p := if p.interval ≠ 0 ∧ p.interval ≤ now - p.lastReport then p.report now false else p
      { p with supervisor := .look } := by
  unfold wake
  by_cases stopped : p.session.phase = .stopped
  · simp only [stopped, if_true, true_or]
    rfl
  · by_cases late : p.deadline.any (· ≤ now)
    · simp only [stopped, late, if_true, if_false, or_true]
      rfl
    · simp only [stopped, late, if_false, or_self, Bool.false_eq_true]
      rfl

theorem supervise_value (p : Pipeline σ τ) (now : Nat) : (p.supervise now).value =
    match p.supervisor with
    | .look => { p with supervisor := if p.interrupted then .stop else .sleep }
    | .sleep => (p.wake now).value
    | .stop =>
      { p with session := p.session.requestStop, supervisor := .join p.session.phase }
    | .join previous => if p.session.producer.isActive then p else { p with
        session := (p.session.conclude previous).value.1, consuming := false,
        supervisor := .gather (p.session.conclude previous).value.2 }
    | .gather outcome =>
      if p.allOver then { p.report now true with supervisor := .done outcome } else p
    | .done _ => p := by
  unfold supervise
  cases p.supervisor with
  | look | sleep | stop | done => rfl
  | join previous => cases p.session.producer.isActive <;> rfl
  | gather outcome => cases p.allOver <;> rfl

/-- A supervisor that waits for the end of a session whose producer is through. -/
theorem Matches.join {previous : Phase} (h : p.Matches world q)
    (at_it : p.supervisor = .join previous)
    (through : ∀ task stream frames, p.session.producer ≠ .active task stream frames) :
    Follows q ({ p with
      session := (p.session.conclude previous).value.1, consuming := false,
      supervisor := .gather (p.session.conclude previous).value.2 }, world) := by
  have there : q.supervisor = .join .stopLock := by rw [h.supervisor, at_it]; rfl
  obtain ⟨l, work, session, here, unlocked, stored⟩ :=
    Call.conclude_alone q.base previous h.unlocked (by rw [h.stored, h.session])
      (by rw [h.session]; exact through)
  rw [h.session] at work session
  obtain ⟨shared, ingest⟩ := Call.frame_of_alone work
  have free : l.queueHeld = q.base.queueHeld := congrArg SharedQueue.held shared
  refine ⟨_, (LivePipeline.reaches_call (.inr rfl) there work).trans
    (.single (.supervise 0) rfl), ?_⟩
  exact ⟨session, here.trans h.world, ingest.trans h.outside, free.trans h.free, unlocked,
    by rw [← session]; exact stored, rfl, h.consumers, h.whole, h.interrupted, rfl, h.deadline⟩

theorem Matches.supervise (now : Nat) (h : p.Matches world q) :
    Follows q (p.step (.supervise now) world).value := by
  have result : (p.step (.supervise now) world).value = ((p.supervise now).value, world) := rfl
  rw [result, supervise_value]
  have there := h.supervisor
  cases at_it : p.supervisor with
  | look =>
    rw [at_it] at there
    refine h.watch now (if p.interrupted then .stop else .sleep) ?_ ?_
    · simp only [LivePipeline.supervise, there, h.interrupted, LiveSupervisor.ofTask]
      cases p.interrupted <;> rfl
    · exact ⟨rfl, rfl, rfl, rfl, rfl, rfl⟩
  | sleep =>
    rw [at_it] at there
    refine h.watch now
      (if p.session.phase = .stopped ∨ p.deadline.any (· ≤ now) then .stop else .look) ?_ ?_
    · simp only [LivePipeline.supervise, there, h.session, h.deadline, LiveSupervisor.ofTask]
      split <;> rfl
    · dsimp only
      rw [wake_value]
      split
      case isTrue => exact ⟨rfl, rfl, rfl, rfl, rfl, rfl⟩
      case isFalse =>
        dsimp only
        split <;> exact ⟨rfl, rfl, rfl, rfl, rfl, rfl⟩
  | stop =>
    rw [at_it] at there
    have told : q.step (.supervise now) = some { q with supervisor := .join .stopMark } := by
      simp only [LivePipeline.step, LivePipeline.supervise, there, LiveSupervisor.ofTask]
    refine ⟨{ q with
        base := { q.base with session := q.base.session.requestStop }
        supervisor := .join .stopLock },
      (LivePipeline.Reaches.single (.supervise now) told).trans (.single (.supervise now) rfl), ?_⟩
    exact ⟨congrArg Session.requestStop h.session, h.world, h.outside, h.free, h.unlocked, h.stored,
      rfl, h.consumers, h.whole, h.interrupted, h.consuming, h.deadline⟩
  | join previous =>
    cases on : p.session.producer with
    | active => exact ⟨q, .refl q, h⟩
    | absent | ended => exact h.join at_it (by simp [on])
  | gather outcome =>
    rw [at_it] at there
    dsimp only
    split
    case isTrue all =>
      refine h.watch now (.done outcome) ?_ ⟨rfl, rfl, rfl, rfl, rfl, rfl⟩
      have ended : q.consumers.all (·.task = .done) = true := by
        simpa [h.consumers, allOver, LiveConsumer.ofConsumer_done] using all
      simp only [LivePipeline.supervise, there, LiveSupervisor.ofTask, ended, if_true]
    case isFalse => exact ⟨q, .refl q, h⟩
  | done outcome => exact ⟨q, .refl q, h⟩

theorem Matches.step (action : PipelineAction σ) (h : p.Matches world q) :
    Follows q (p.step action world).value := by
  cases action with
  | produce => exact h.produce
  | consume index => exact h.consume index
  | interrupt =>
    exact ⟨_, .single .interrupt rfl, h.session, h.world, h.outside, h.free, h.unlocked,
      h.stored, h.supervisor, h.consumers, h.whole, rfl, h.consuming, h.deadline⟩
  | supervise now => exact h.supervise now
  | outside world' =>
    exact ⟨_, .single (.outside world') rfl, h.session, rfl, h.outside, h.free, h.unlocked,
      h.stored, h.supervisor, h.consumers, h.whole, h.interrupted, h.consuming, h.deadline⟩

theorem Matches.run (h : p.Matches world q) (actions : List (PipelineAction σ)) :
    Follows q (p.run actions world).value := by
  induction actions generalizing p world q with
  | nil => exact ⟨q, .refl q, h⟩
  | cons action rest ih =>
    obtain ⟨q', first, next⟩ := h.step action
    obtain ⟨q'', others, last⟩ := ih next
    exact ⟨q'', first.trans others, last⟩

/-- Once its session has started a pipeline matches one among threads. -/
theorem matches_of_start {s : Session σ τ} (fresh : s.producer = .absent)
    (started : (s.start world).value.1.2 = .ok ()) (consumers : Nat) (deadline : Option Nat)
    (interval : Nat) :
    Follows (LivePipeline.ofSession s world consumers deadline)
      (ofSession (s.start world).value.1.1 consumers deadline interval,
        (s.start world).value.2) := by
  let q : LivePipeline σ τ := .ofSession s world consumers deadline
  obtain ⟨l, passed, work, session, here, unlocked, stored⟩ := Call.start_alone q.base rfl
  obtain ⟨shared, ingest⟩ := Call.frame_of_alone work
  have free : l.queueHeld = false := congrArg SharedQueue.held shared
  rw [show (q.base.session.start q.base.world).value.1.2 = .ok () from started] at work
  have stored : l.stored = l.session.producer.present :=
    stored (by simp [q, LivePipeline.ofSession, LiveSession.ofSession, fresh, Producer.present])
  refine ⟨_, (LivePipeline.reaches_call (.inl rfl) (p := q) rfl work).trans
    (.single (.supervise 0) rfl), ?_⟩
  exact ⟨session, here, ingest, free, unlocked,
    stored.trans (congrArg (fun s => s.producer.present) session), rfl,
    by simp [q, LivePipeline.ofSession, ofSession, LiveConsumer.ofConsumer],
    by simp [ofSession, List.mem_replicate], rfl, rfl, rfl⟩

/-- A whole run of a pipeline is one among threads. -/
theorem run_among_threads {s : Session σ τ} (fresh : s.producer = .absent)
    (started : (s.start world).value.1.2 = .ok ()) (consumers : Nat) (deadline : Option Nat)
    (interval : Nat) (actions : List (PipelineAction σ)) :
    Follows (LivePipeline.ofSession s world consumers deadline)
      ((ofSession (s.start world).value.1.1 consumers deadline interval).run actions
        (s.start world).value.2).value := by
  obtain ⟨q, begun, h⟩ := matches_of_start fresh started consumers deadline interval
  obtain ⟨q', others, last⟩ := h.run actions
  exact ⟨q', begun.trans others, last⟩

end Pipeline
end CaptureQueue
