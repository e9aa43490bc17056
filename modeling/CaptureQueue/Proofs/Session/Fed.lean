import CaptureQueue.Backend.Memory
import CaptureQueue.Proofs.Session.Accounting
import CaptureQueue.Proofs.Session.Unbroken

/-! A capture that is fed from memory, with the frames as they came in, and the same frames taken in
one after the other. At every moment the queue and the counters are those of the frames that came
in, but for what the frame in work has been counted as. -/

set_option autoImplicit false
namespace CaptureQueue

variable {σ τ : Type}

/-! ## Frame by frame -/

/-- A frame as it came in: the bytes kept of it, the chain that judged it, and the strategies that
were set since the frame before it was offered. -/
structure Arrival where
  data : Bytes
  filters : FilterChain
  swaps : List DropStrategy

namespace Session

def takeIn (s : Session σ τ) (sequence : Nat) (a : Arrival) : Session σ τ :=
  let s := a.swaps.foldl (fun s strategy => (s.setStrategy strategy).value) s
  ({ s with filters := a.filters }.ingest sequence a.data).value.1

/-- Takes frames in one after the other, numbered from zero. -/
def takeInAll (s : Session σ τ) (arrivals : List Arrival) : Session σ τ :=
  arrivals.zipIdx.foldl (fun s (a, sequence) => s.takeIn sequence a) s

def queueAfter (s : Session σ τ) (arrivals : List Arrival) : MeteredQueue :=
  (s.takeInAll arrivals).queue

theorem takeInAll_concat (s : Session σ τ) (arrivals : List Arrival) (a : Arrival) :
    s.takeInAll (arrivals ++ [a]) = (s.takeInAll arrivals).takeIn arrivals.length a := by
  simp [takeInAll, List.zipIdx_append]

theorem queue_setStrategies (s : Session σ τ) (swaps : List DropStrategy) :
    (swaps.foldl (fun s strategy => (s.setStrategy strategy).value) s).queue =
      { s.queue with queue := swaps.foldl PacketQueue.withStrategy s.queue.queue } := by
  induction swaps generalizing s with
  | nil => rfl
  | cons strategy rest ih => exact ih (s.setStrategy strategy).value

theorem queue_ingest (s : Session σ τ) (sequence : Nat) (data : Bytes) :
    (s.ingest sequence data).value.1.queue =
      match s.filters.firstRejection { sequence := sequence, data := data } with
      | .error _ => { s.queue with
          metrics := s.queue.metrics.updateAll (Metrics.capture data.length) }
      | .ok (some _) => { s.queue with
          metrics := (s.queue.metrics.updateAll (Metrics.capture data.length)).update .filtered }
      | .ok none => (({ s.queue with
          metrics := s.queue.metrics.updateAll (Metrics.capture data.length) } : MeteredQueue).enqueue
            { sequence := sequence, data := data }).value.1 := by
  simp only [ingest, bind, Traced.bind]
  cases judged : s.filters.firstRejection { sequence := sequence, data := data } with
  | error fault => rfl
  | ok rejection =>
    cases rejection with
    | some rejecter => rfl
    | none =>
      simp only
      split
      case h_1 => rfl
      case h_2 => split <;> rfl

theorem takeIn_eq (s : Session σ τ) (sequence : Nat) (a : Arrival) :
    (s.takeIn sequence a).queue = (({ s with
      filters := a.filters
      queue := { s.queue with queue := a.swaps.foldl PacketQueue.withStrategy s.queue.queue } }).ingest
        sequence a.data).value.1.queue := by
  unfold takeIn
  simp only [queue_ingest, queue_setStrategies]

end Session

theorem PacketQueue.packets_withStrategies (q : PacketQueue) (strategies : List DropStrategy) :
    (strategies.foldl withStrategy q).packets = q.packets := by
  induction strategies generalizing q with
  | nil => rfl
  | cons strategy rest ih => exact ih (q.withStrategy strategy)

theorem Edit.step_contents {q q' : SharedQueue} {e : Edit} (stepped : e.step q = some q') :
    q'.queue.metrics = q.queue.metrics ∧ q'.queue.queue.packets = q.queue.queue.packets := by
  cases e with
  | addFilter | removeFilter =>
    cases stepped
    exact ⟨rfl, rfl⟩
  | setStrategy =>
    simp only [step] at stepped
    split at stepped <;> cases stepped
    exact ⟨rfl, rfl⟩

/-! ## Fed from memory, step by step -/

/-- A session on a backend fed from memory, with what it was fed and what came in. The judge admitted the
frame in work, and the swaps came after the last offer. The fields beside the session decide
nothing. -/
structure FedSession where
  live : LiveSession MemoryFeed MemoryStream
  pushed : List FeedItem
  arrivals : List Arrival := []
  judge : FilterChain := {}
  swaps : List DropStrategy := []

inductive FeedAction where
  | push (items : List FeedItem)
  | produce
  | start
  | call (index : Nat)
  | edit (e : Edit)

namespace Edit

def swaps : Edit → List DropStrategy
  | .setStrategy strategy => [strategy]
  | _ => []

end Edit

def FeedAction.Sound : FeedAction → Prop
  | .edit e => e.Sound
  | _ => True

namespace FedSession

def ofSession (s : Session MemoryFeed MemoryStream) (feed : MemoryFeed) : FedSession where
  live := .ofSession s feed
  pushed := feed.items

def arrive (f : FedSession) (data : Bytes) (filters : FilterChain) : FedSession :=
  { f with arrivals := f.arrivals ++ [⟨data, filters, f.swaps⟩], swaps := [] }

/-- Notes a frame when the filters turn it away, or when it is offered. -/
def observe (f : FedSession) : FedSession :=
  match f.live.ingest with
  | some (.judge p) =>
    match f.live.session.filters.firstRejection p with
    | .ok none => { f with judge := f.live.session.filters }
    | _ => f.arrive p.data f.live.session.filters
  | some (.decide p) => f.arrive p.data f.judge
  | _ => f

def step (f : FedSession) : FeedAction → Option FedSession
  | .push items => do
    let live ← f.live.step (.outside (f.live.world.push items))
    return { f with live := live, pushed := f.pushed ++ items }
  | .produce => return { f.observe with live := ← f.live.step .produce }
  | .start => return { f with live := ← f.live.step .start }
  | .call index => return { f with live := ← f.live.step (.call index) }
  | .edit e => return { f with live := ← f.live.step (.edit e), swaps := f.swaps ++ e.swaps }

def run (f : FedSession) (actions : List FeedAction) : Option FedSession := actions.foldlM step f

theorem observe_frame (f : FedSession) : f.observe.live = f.live ∧ f.observe.pushed = f.pushed := by
  unfold observe
  repeat' split
  all_goals exact ⟨rfl, rfl⟩

theorem live_of_step {f f' : FedSession} {action : FeedAction} (sound : action.Sound)
    (stepped : f.step action = some f') :
    ∃ act : LiveAction MemoryFeed, act.Sound ∧ f.live.step act = some f'.live := by
  cases action with
  | push items =>
    cases stepped
    exact ⟨.outside _, trivial, rfl⟩
  | produce =>
    simp only [step, bind, Option.bind_eq_some_iff] at stepped
    obtain ⟨live, moved, same⟩ := stepped
    cases same
    exact ⟨.produce, trivial, moved⟩
  | start =>
    cases stepped
    exact ⟨.start, trivial, rfl⟩
  | call index =>
    simp only [step, bind, Option.bind_eq_some_iff] at stepped
    obtain ⟨live, moved, same⟩ := stepped
    cases same
    exact ⟨.call index, trivial, moved⟩
  | edit e =>
    simp only [step, bind, Option.bind_eq_some_iff] at stepped
    obtain ⟨live, moved, same⟩ := stepped
    cases same
    exact ⟨.edit e, sound, moved⟩

end FedSession

/-! ## The work on a frame -/

namespace Ingest

/-- What a frame has been counted as before it is noted. -/
def early : Ingest → List MetricUpdate
  | .measure p | .judge p | .enter p | .register p => Metrics.capture p.data.length
  | .decide p => Metrics.capture p.data.length ++ [.enqueued]
  | _ => []

def noted : Ingest → Bool
  | .dismiss | .settle _ _ | .release _ | .leave _ | .done _ => true
  | _ => false

/-- Whether the filters have admitted the frame, which is not offered yet. -/
def admitted : Ingest → Bool
  | .enter _ | .register _ | .decide _ => true
  | _ => false

end Ingest

namespace FedSession

variable {s : Session MemoryFeed MemoryStream} {f f' : FedSession}

def foldNext (s : Session MemoryFeed MemoryStream) (f : FedSession) (data : Bytes) :
    MeteredQueue where
  queue := f.swaps.foldl PacketQueue.withStrategy (s.queueAfter f.arrivals).queue
  metrics := (s.queueAfter f.arrivals).metrics.updateAll (Metrics.capture data.length)

theorem fold_arrive {frames : Nat} (number : f.arrivals.length = frames) (data : Bytes)
    (filters : FilterChain) :
    s.queueAfter (f.arrive data filters).arrivals =
      match filters.firstRejection { sequence := frames, data := data } with
      | .error _ => f.foldNext s data
      | .ok (some _) => { f.foldNext s data with
          metrics := (f.foldNext s data).metrics.update .filtered }
      | .ok none => ((f.foldNext s data).enqueue { sequence := frames, data := data }).value.1 := by
  subst number
  have concat := Session.takeInAll_concat s f.arrivals ⟨data, filters, f.swaps⟩
  have queue := congrArg Session.queue concat
  rw [Session.takeIn_eq, Session.queue_ingest] at queue
  exact queue

/-- The queue and the counters are those of the frames noted so far, but for what the frame in work
has been counted as and will be. -/
structure Folded (s : Session MemoryFeed MemoryStream) (f : FedSession) : Prop where
  queue : f.live.session.queue.queue =
    f.swaps.foldl PacketQueue.withStrategy (s.queueAfter f.arrivals).queue
  metrics : f.live.session.queue.metrics.updateAll ((f.live.ingest.map Ingest.pending).getD []) =
    (s.queueAfter f.arrivals).metrics.updateAll ((f.live.ingest.map Ingest.early).getD [])
  work : ∀ i, f.live.ingest = some i → ∃ data stream frames,
    f.live.session.producer = .active (.ingest data) stream frames ∧
    (∀ p, i ≠ .capture p) ∧ (∀ p ∈ i.carried, p = { sequence := frames, data := data }) ∧
    f.arrivals.length = frames + i.noted.toNat ∧
    (i.admitted = true → ∀ p ∈ i.carried, f.judge.firstRejection p = .ok none)
  rest : f.live.ingest = none → ∀ task stream frames,
    f.live.session.producer = .active task stream frames → task.captures = true →
      f.arrivals.length = frames
  fresh : f.live.spawnings = 0 → f.arrivals = []

theorem observe_of_outside (h : f.Folded s)
    (outside : ∀ data stream frames, f.live.session.producer ≠ .active (.ingest data) stream frames) :
    f.live.ingest = none ∧ f.observe = f := by
  have none : f.live.ingest = none := by
    by_contra inside
    obtain ⟨i, some⟩ := Option.ne_none_iff_exists'.mp inside
    obtain ⟨data, stream, frames, on, _⟩ := h.work i some
    exact outside data stream frames on
  exact ⟨none, by rw [observe, none]⟩

theorem Folded.of_work {data : Bytes} {stream : MemoryStream} {frames : Nat} {i : Ingest}
    (on : f.live.session.producer = .active (.ingest data) stream frames)
    (inside : f.live.ingest = some i)
    (queue : f.live.session.queue.queue =
      f.swaps.foldl PacketQueue.withStrategy (s.queueAfter f.arrivals).queue)
    (metrics : f.live.session.queue.metrics.updateAll i.pending =
      (s.queueAfter f.arrivals).metrics.updateAll i.early)
    (begun : ∀ p, i ≠ .capture p)
    (packets : ∀ p ∈ i.carried, p = { sequence := frames, data := data })
    (count : f.arrivals.length = frames + i.noted.toNat)
    (admits : i.admitted = true → ∀ p ∈ i.carried, f.judge.firstRejection p = .ok none)
    (spawned : f.live.spawnings ≠ 0) : f.Folded s where
  queue := queue
  metrics := by rw [inside]; exact metrics
  work := by
    intro j same
    cases inside.symm.trans same
    exact ⟨data, stream, frames, on, begun, packets, count, admits⟩
  rest := by
    intro none
    rw [inside] at none
    cases none
  fresh := fun none => absurd none spawned

section Work

variable {data : Bytes} {stream : MemoryStream} {frames : Nat} {q : SharedQueue} {i : Ingest}

theorem Folded.judge_step (h : f.Folded s)
    (on : f.live.session.producer = .active (.ingest data) stream frames)
    (inside : f.live.ingest = some (.judge { sequence := frames, data := data }))
    (number : f.arrivals.length = frames)
    (moved : (Ingest.judge { sequence := frames, data := data }).step f.live.shared = some (q, i))
    (spawned : f.live.spawnings ≠ 0) :
    Folded s { f.observe with live := { f.live.withShared q with ingest := some i } } := by
  have queue := h.queue
  have metrics := h.metrics
  have begun := (Ingest.step_captured moved).2
  rw [inside] at metrics
  simp only [Ingest.step] at moved
  rw [show f.live.shared.filters = f.live.session.filters from rfl] at moved
  have noted := fold_arrive (s := s) number data f.live.session.filters
  cases judged : f.live.session.filters.firstRejection { sequence := frames, data := data } with
  | error fault =>
    have seen : f.observe = f.arrive data f.live.session.filters := by
      simp only [observe, inside, judged]
    rw [judged] at moved noted
    cases moved
    rw [seen]
    refine .of_work on rfl ?_ ?_ begun (by simp [Ingest.carried])
      (by simp [arrive, number, Ingest.noted]) (by simp [Ingest.admitted]) spawned
    · exact queue.trans (congrArg MeteredQueue.queue noted).symm
    · exact metrics.trans (congrArg MeteredQueue.metrics noted).symm
  | ok rejection =>
    rw [judged] at moved noted
    cases rejection with
    | some rejecter =>
      have seen : f.observe = f.arrive data f.live.session.filters := by
        simp only [observe, inside, judged]
      cases moved
      rw [seen]
      refine .of_work on rfl ?_ ?_ begun (by simp [Ingest.carried])
        (by simp [arrive, number, Ingest.noted]) (by simp [Ingest.admitted]) spawned
      · exact queue.trans (congrArg MeteredQueue.queue noted).symm
      · refine Eq.trans ?_ (congrArg MeteredQueue.metrics noted).symm
        exact congrArg (Metrics.update · .filtered) metrics
    | none =>
      have seen : f.observe = { f with judge := f.live.session.filters } := by
        simp only [observe, inside, judged]
      cases moved
      rw [seen]
      refine .of_work on rfl queue metrics begun (by simp [Ingest.carried]) number ?_ spawned
      intro _ p member
      rw [List.mem_singleton.mp member]
      exact judged

-- The chain that judged the packet may have been changed since; it is the one that was kept.
theorem Folded.decide_step (h : f.Folded s)
    (on : f.live.session.producer = .active (.ingest data) stream frames)
    (inside : f.live.ingest = some (.decide { sequence := frames, data := data }))
    (number : f.arrivals.length = frames)
    (admitted : f.judge.firstRejection { sequence := frames, data := data } = .ok none)
    (moved : (Ingest.decide { sequence := frames, data := data }).step f.live.shared = some (q, i))
    (spawned : f.live.spawnings ≠ 0) :
    Folded s { f.observe with live := { f.live.withShared q with ingest := some i } } := by
  have queue := h.queue
  have metrics := h.metrics
  have begun := (Ingest.step_captured moved).2
  rw [inside] at metrics
  have seen : f.observe = f.arrive data f.judge := by rw [observe, inside]
  have noted := fold_arrive (s := s) number data f.judge
  rw [admitted] at noted
  cases moved
  rw [seen]
  refine .of_work on rfl ?_ ?_ begun (by simp [Ingest.carried])
    (by simp [arrive, number, Ingest.noted]) (by simp [Ingest.admitted]) spawned
  · refine Eq.trans ?_ (congrArg MeteredQueue.queue noted).symm
    exact congrArg (fun q : PacketQueue => (q.offer _).1) queue
  · refine Eq.trans ?_ (congrArg MeteredQueue.metrics noted).symm
    have counted : f.live.session.queue.metrics = (f.foldNext s data).metrics.update .enqueued := by
      simpa [Ingest.pending, Ingest.early, Metrics.updateAll, foldNext] using metrics
    have same : f.live.session.queue.queue = (f.foldNext s data).queue := queue
    simp only [MeteredQueue.enqueue]
    rw [Offered.updatesHeld_eq_cons]
    simp [LiveSession.withShared, LiveSession.shared, SharedQueue.offer, counted, same,
      Ingest.pending, Metrics.updateAll]

theorem Folded.work_step (h : f.Folded s)
    (on : f.live.session.producer = .active (.ingest data) stream frames)
    (moved : (f.live.ingest.getD (.capture { sequence := frames, data := data })).step
      f.live.shared = some (q, i)) (spawned : f.live.spawnings ≠ 0) :
    Folded s { f.observe with live := { f.live.withShared q with ingest := some i } } := by
  have queue := h.queue
  have metrics := h.metrics
  have begun := (Ingest.step_captured moved).2
  cases inside : f.live.ingest with
  | none =>
    have count := h.rest inside _ _ _ on rfl
    have same : f.observe = f := by rw [observe, inside]
    rw [inside] at moved metrics
    cases moved
    rw [same]
    refine .of_work on rfl queue ?_ begun (by simp [Ingest.carried]) count
      (by simp [Ingest.admitted]) spawned
    simp only [Option.map_none, Option.getD_none, Metrics.updateAll, List.foldl_nil] at metrics
    simp [LiveSession.withShared, LiveSession.shared, SharedQueue.capture, SharedQueue.count, metrics,
      Ingest.pending, Ingest.early, Metrics.updateAll, Metrics.capture]
  | some j =>
    obtain ⟨data', stream', frames', on', inner, packets, count, admits⟩ := h.work j inside
    cases on.symm.trans on'
    rw [inside] at moved metrics
    simp only [Option.map_some, Option.getD_some] at metrics moved
    cases j with
    | capture p => exact absurd rfl (inner p)
    | judge p =>
      cases packets p List.mem_cons_self
      exact h.judge_step on inside count moved spawned
    | decide p =>
      cases packets p List.mem_cons_self
      exact h.decide_step on inside count (admits rfl _ List.mem_cons_self) moved spawned
    | enter p =>
      have same : f.observe = f := by rw [observe, inside]
      simp only [Ingest.step] at moved
      split at moved <;> cases moved
      rw [same]
      exact .of_work on rfl queue metrics begun packets count admits spawned
    | register p =>
      have same : f.observe = f := by rw [observe, inside]
      cases moved
      rw [same]
      refine .of_work on rfl queue ?_ begun packets count admits spawned
      simpa [LiveSession.withShared, LiveSession.shared, SharedQueue.count, Ingest.pending,
        Ingest.early, Metrics.updateAll] using congrArg (Metrics.update · .enqueued) metrics
    | settle asked outcome | leave outcome =>
      have same : f.observe = f := by rw [observe, inside]
      cases moved
      rw [same, SharedQueue.countAll_eq]
      refine .of_work on rfl queue ?_ begun (by simp [Ingest.carried]) count
        (by simp [Ingest.admitted]) spawned
      simpa [LiveSession.withShared, LiveSession.shared, Ingest.pending, Ingest.early,
        Metrics.updateAll] using metrics
    | measure p =>
      have same : f.observe = f := by rw [observe, inside]
      cases moved
      rw [same]
      exact .of_work on rfl queue metrics begun packets count (by simp [Ingest.admitted]) spawned
    | dismiss | release outcome =>
      have same : f.observe = f := by rw [observe, inside]
      cases moved
      rw [same]
      exact .of_work on rfl queue metrics begun (by simp [Ingest.carried]) count
        (by simp [Ingest.admitted]) spawned
    | done result => cases moved

end Work

theorem Folded.start (fresh : s.Fresh) (feed : MemoryFeed) : Folded s (ofSession s feed) := by
  have absent : (ofSession s feed).live.session.producer = .absent := fresh.producer
  refine ⟨rfl, rfl, ?_, ?_, fun _ => rfl⟩
  · intro i inside
    cases inside
  · intro _ task stream frames on
    cases absent.symm.trans on

theorem Folded.produce {l : LiveSession MemoryFeed MemoryStream} (h : f.Folded s)
    (spawned : f.live.spawnings ≠ 0) (stepped : f.live.produce = some l) :
    Folded s { f.observe with live := l } := by
  have queue := h.queue
  have metrics := h.metrics
  cases LiveSession.produced_of_produce stepped with
  | turn on outside captures =>
    obtain ⟨empty, same⟩ := observe_of_outside h fun data stream frames now => by
      cases on.symm.trans now
      exact outside _ rfl
    rw [same]
    refine ⟨queue, metrics, ?_, ?_, h.fresh⟩
    · intro i inside
      cases empty.symm.trans inside
    · intro _ task stream frames now goes
      cases now
      exact h.rest empty _ _ _ on (captures goes)
  | close on =>
    obtain ⟨empty, same⟩ := observe_of_outside h fun data stream frames now => by
      cases on.symm.trans now
    rw [same]
    refine ⟨queue, metrics, ?_, ?_, h.fresh⟩
    · intro i inside
      cases empty.symm.trans inside
    · intro _ task stream frames now
      cases now
  | work on moved => exact h.work_step on moved spawned
  | succeed on through | broke on through =>
    have same : f.observe = f := by rw [observe, through]
    obtain ⟨_, _, _, on', _, _, count, _⟩ := h.work _ through
    cases on.symm.trans on'
    rw [through] at metrics
    rw [same]
    refine ⟨queue, metrics, ?_, ?_, h.fresh⟩
    · intro i inside
      cases inside
    · intro _ task stream frames now goes
      cases now
      first | exact count | cases goes

theorem Folded.call {l : LiveSession MemoryFeed MemoryStream} {index : Nat} (h : f.Folded s)
    (lawful : f.live.Lawful) (stepped : f.live.step (.call index) = some l) :
    Folded s { f with live := l } := by
  obtain ⟨c, c', others, after, calls, moved, rfl, was, _⟩ := LiveSession.exists_call stepped
  have orderly := lawful.orderly.perm was
  obtain ⟨shared, ingest, _, _⟩ := Call.step_frame moved
  have sameQueue : after.session.queue = f.live.session.queue := congrArg SharedQueue.queue shared
  have queue := h.queue
  have metrics := h.metrics
  rw [← sameQueue] at queue metrics
  rw [← ingest] at metrics
  refine ⟨queue, metrics, ?_, ?_, ?_⟩
  · intro i inside
    have before := ingest.symm.trans inside
    obtain ⟨data, stream, frames, on, rest⟩ := h.work i before
    refine ⟨data, stream, frames, ?_, rest⟩
    rcases Call.step_producer moved with ⟨same, _⟩ | ⟨_, opened, _⟩ | ⟨clean, ended, _⟩
    · exact same.trans on
    · cases on.symm.trans (orderly.alone (by simp [opened])).2
    · cases on.symm.trans ended
  · intro empty task stream frames now goes
    rcases Call.step_producer moved with ⟨same, _⟩ | ⟨_, opened, begun, _⟩ | ⟨_, _, absent, _⟩
    · exact h.rest (ingest.symm.trans empty) _ _ _ (same.symm.trans now) goes
    · cases begun.symm.trans now
      exact congrArg List.length (h.fresh (orderly.alone (by simp [opened])).1)
    · cases absent.symm.trans now
  · intro none
    apply h.fresh
    have none : after.spawnings = 0 := none
    rcases Call.step_producer moved with ⟨_, same⟩ | ⟨_, _, _, more⟩ | ⟨_, _, _, same⟩ <;> omega

theorem Folded.edit {l : LiveSession MemoryFeed MemoryStream} {e : Edit} (h : f.Folded s)
    (stepped : f.live.step (.edit e) = some l) :
    Folded s { f with live := l, swaps := f.swaps ++ e.swaps } := by
  simp only [LiveSession.step, bind, Option.bind_eq_some_iff] at stepped
  obtain ⟨q, moved, same⟩ := stepped
  cases same
  cases e with
  | addFilter p | removeFilter id =>
    cases moved
    refine ⟨?_, h.metrics, h.work, h.rest, h.fresh⟩
    exact h.queue.trans (by simp [Edit.swaps])
  | setStrategy strategy =>
    simp only [Edit.step] at moved
    split at moved <;> cases moved
    refine ⟨?_, h.metrics, h.work, h.rest, h.fresh⟩
    simp only [Edit.swaps, List.foldl_append, ← h.queue]
    rfl

end FedSession

end CaptureQueue
