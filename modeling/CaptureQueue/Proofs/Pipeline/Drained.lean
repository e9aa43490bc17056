import CaptureQueue.Program.Capture
import CaptureQueue.Proofs.Pipeline.Live
import CaptureQueue.Proofs.Program.Job

/-! What a capture leaves behind. The supervisor stops the session, which waits for the producer, and
only then tells the consumers; so each of them ends at an empty queue that nothing comes into any
more. -/

set_option autoImplicit false
namespace CaptureQueue

variable {σ τ : Type}

/-! ## The session under its threads -/

namespace LivePipeline.Tended

variable {l l' : LiveSession σ τ}

theorem lawful (tended : Tended l l') (h : l.Lawful) : l'.Lawful := by
  rcases tended with acted | ⟨takings, _, rfl⟩
  · exact h.acted acted
  · refine ⟨h.orderly.of_eq ⟨rfl, rfl⟩ rfl ⟨rfl, rfl⟩ ⟨rfl, rfl⟩ ⟨rfl, rfl⟩, ?_⟩
    intro c member concluded
    have ended := h.ended c member concluded
    exact ⟨ended.phase, ended.absent, ended.settled⟩

theorem booked (tended : Tended l l') (h : l.Booked) : l'.Booked := by
  rcases tended with acted | ⟨takings, same, rfl⟩
  · exact h.acted acted
  · exact Balanced.perm h (.refl _) same.symm

end LivePipeline.Tended

/-! ## Nothing breaks -/

namespace Ingest

theorem broke_eq_false {i : Ingest} (sound : i.fault? = none) : i.broke = false := by
  cases i with
  | settle asked outcome | release outcome | leave outcome | done outcome =>
    cases outcome with
    | ok _ => rfl
    | error fault => cases sound
  | _ => rfl

end Ingest

namespace LiveSession

variable {l l' : LiveSession σ τ}

theorem Unbroken.lost_produced (h : l.Unbroken) (produced : l.Produced l') :
    l'.ledger.lost = l.ledger.lost := by
  have after := h.produced produced
  cases produced with
  | @work data stream frames s i on moved =>
    have balance := Ingest.step_lost moved
    rw [Ingest.broke_eq_false (after.work i rfl)] at balance
    cases inside : l.ingest with
    | none =>
      rw [inside] at balance
      exact balance
    | some j =>
      rw [inside] at balance
      simp only [Option.getD_some, Ingest.broke_eq_false (h.work j inside)] at balance
      exact balance
  | turn | close | succeed | broke => rfl

/-- What the producer keeps as the failure of the capture is all that it changes there. -/
theorem failure_produce (stepped : l.produce = some l') :
    l'.session.failure = l.keeping?.or l.session.failure := by
  unfold produce at stepped
  cases on : l.session.producer with
  | absent | ended => simp [on] at stepped
  | active task stream frames =>
    rw [on] at stepped
    cases task with
    | ingest data =>
      simp only at stepped
      split at stepped
      case h_1 | h_2 =>
        cases stepped
        simp [keeping?, on]
      case h_3 =>
        simp only [bind, Option.bind_eq_some_iff] at stepped
        obtain ⟨⟨s, i⟩, _, same⟩ := stepped
        cases same
        simp [keeping?, on, withShared]
    | poll =>
      cases stepped
      rw [errand_poll on]
      simp [keeping?, on]
    | read =>
      cases stepped
      rw [errand_read on]
      simp [keeping?, on]
    | fail e =>
      cases stepped
      rw [errand_fail on]
      simp [keeping?, on]
    | halt =>
      cases stepped
      rw [errand_halt on]
      simp [keeping?, on]
    | close =>
      cases stepped
      rw [errand_end on]
      simp [keeping?, on]

theorem clean_produce
    (closes : ∀ stream, ∃ closed,
      (l.session.backend.close stream l.world).value.1 = (closed, .ok ()))
    (stepped : l.produce = some l') : l'.session.producer ≠ .ended false := by
  cases produced_of_produce stepped with
  | turn | succeed | broke => simp
  | work on => simp [withShared, on]
  | @close stream frames clean world on =>
    intro ended
    obtain ⟨closed, fine⟩ := closes stream
    simp only [produce, on, errand_end on, fine, Option.some.injEq] at stepped
    have clean := congrArg (fun l : LiveSession σ τ => l.session.producer) stepped
    cases ended
    cases clean

end LiveSession

theorem Datalink.close_ok (stream : Channel) (host : Host) :
    ∃ closed, (backend.close stream host).value.1 = (closed, .ok ()) := by
  obtain ⟨interface, snaplen, isOpen⟩ := stream
  cases isOpen <;> exact ⟨_, rfl⟩

namespace Call

variable {l l' : LiveSession σ τ} {c c' : Call τ}

theorem step_starts (stepped : c.step l = some (l', c')) : c'.starts = c.starts := by
  cases called_of_step stepped <;> rfl

theorem eq_stopped {outcome : Except CaptureError Unit} (answered : c.answer? = some outcome) :
    c = .stopped outcome := by
  cases c <;> cases answered
  rfl

/-- How a session ends whose producer has kept that failure, or none. -/
def verdict : Option CaptureError → Except CaptureError Unit
  | some e => .error e
  | none => .ok ()

/-- A stop hands out what the producer has kept, and no call changes it before. -/
theorem step_failure (clean : l.session.producer ≠ .ended false)
    (stepped : c.step l = some (l', c')) :
    match c'.answer? with
    | some outcome => outcome = verdict l.session.failure
    | none => l'.session.failure = l.session.failure := by
  cases c with
  | stopJoin =>
    simp only [step] at stepped
    split at stepped <;> cases stepped
    case h_1 good on =>
      cases good with
      | true => simp [answer?, Session.join, on, pure]
      | false => exact absurd on clean
  | stopReport =>
    cases stepped
    unfold Session.takeFailure verdict
    cases l.session.failure <;> rfl
  | _ => cases called_of_step stepped <;> rfl

end Call

/-! ## The consumers -/

def Taking.Single : Taking → Prop
  | .enter all | .take all => all = false
  | .count _ packets | .done packets => packets.length ≤ 1

theorem Taking.Single.step {s s' : SharedQueue} {t t' : Taking} (h : t.Single)
    (stepped : t.step s = some (s', t')) : t'.Single := by
  cases t with
  | enter all =>
    simp only [Taking.step] at stepped
    split at stepped <;> cases stepped
    exact h
  | take all =>
    cases h
    cases stepped
    simp only [Single, SharedQueue.taken]
    cases s.queue.queue.take.2 <;> simp
  | count n packets => cases n <;> cases stepped <;> exact h
  | done packets => cases stepped

def Taking.foundNone : Taking → Bool
  | .count _ packets | .done packets => packets.isEmpty
  | _ => false

theorem SharedQueue.taken_nil {s : SharedQueue} {all : Bool} (none : (s.taken all).2 = []) :
    (s.taken all).1.packets = [] := by
  cases all with
  | true => rfl
  | false =>
    simp only [taken, Bool.false_eq_true, if_false, PacketQueue.take, Option.toList_eq_nil_iff,
      List.head?_eq_none_iff] at none ⊢
    rw [none]
    rfl

theorem Taking.foundNone_step {s s' : SharedQueue} {t t' : Taking}
    (h : t.foundNone = true → s.queue.queue.packets = []) (stepped : t.step s = some (s', t'))
    (found : t'.foundNone = true) : s'.queue.queue.packets = [] := by
  cases t with
  | enter all =>
    simp only [step] at stepped
    split at stepped <;> cases stepped
    cases found
  | take all =>
    cases stepped
    exact SharedQueue.taken_nil (List.isEmpty_iff.mp found)
  | count n packets => cases n <;> cases stepped <;> exact h found
  | done packets => cases stepped

namespace LiveConsumer

/-- How many packets the consumer has taken: those it is through with, and the one in its hands. -/
def load (c : LiveConsumer) : Nat :=
  match c.task with
  | .inspect _ _ => c.consumed + 1
  | _ => c.consumed

def drains (c : LiveConsumer) : Bool :=
  match c.task with
  | .look => false
  | .take left _ | .inspect left _ => left
  | .done => true

def foundNone (c : LiveConsumer) : Bool :=
  match c.task with
  | .take left t => left && t.foundNone
  | .done => true
  | _ => false

end LiveConsumer

namespace LiveConsumer.Stepped

variable {l l' : LiveSession σ τ} {consuming : Bool} {c c' : LiveConsumer}

theorem frame (stepped : c.Stepped l consuming l' c') :
    l'.session = { l.session with queue := l'.session.queue } ∧ l'.calls = l.calls ∧
      l'.ingest = l.ingest ∧
      l'.session.queue.queue.strategy = l.session.queue.queue.strategy ∧
      l.shared.Drained l'.shared := by
  cases stepped with
  | look | through | inspect => exact ⟨rfl, rfl, rfl, rfl, .refl _⟩
  | move task moved =>
    obtain ⟨filters, strategy⟩ := Taking.step_guards moved
    refine ⟨?_, rfl, rfl, strategy, Taking.step_drained moved⟩
    rw [LiveSession.withShared, filters]
    rfl

theorem working (stepped : c.Stepped l consuming l' c') : c.task ≠ .done := by
  cases stepped <;> simp [*]

theorem takings (stepped : c.Stepped l consuming l' c') :
    l'.takings = l.takings ∨ ∃ packets, l'.takings = l.takings ++ [.done packets] := by
  cases stepped with
  | look | move | inspect => exact .inl rfl
  | through => exact .inr ⟨_, rfl⟩

theorem single (stepped : c.Stepped l consuming l' c') (h : ∀ t ∈ c.taking, t.Single) :
    ∀ t ∈ c'.taking, t.Single := by
  cases stepped with
  | look => simp [taking, Taking.Single]
  | move task moved =>
    simp only [taking, task, List.mem_singleton, forall_eq] at h ⊢
    exact h.step moved
  | @through left patient packets task =>
    cases packets.head? with
    | some p => simp [taking, LiveTask.after]
    | none => cases left <;> cases patient <;> simp [taking, LiveTask.after, Taking.Single]
  | @inspect left p task => cases left <;> simp [taking, Taking.Single]

theorem load (stepped : c.Stepped l consuming l' c') (h : ∀ t ∈ c.taking, t.Single) :
    (l'.takings.flatMap Taking.packets).length + c.load =
      (l.takings.flatMap Taking.packets).length + c'.load := by
  cases stepped with
  | look task => simp [LiveConsumer.load, task]
  | move task => simp [LiveConsumer.load, task, LiveSession.withShared]
  | @through left patient packets task =>
    simp only [taking, task, List.mem_singleton, forall_eq, Taking.Single] at h
    cases packets with
    | nil =>
      cases left <;> cases patient <;>
        simp [LiveConsumer.load, task, LiveTask.after, Taking.packets]
    | cons p rest =>
      obtain rfl : rest = [] := by simpa using h
      simp only [List.flatMap_append, List.flatMap_singleton, Taking.packets, List.length_append,
        List.length_singleton, List.head?_cons, LiveConsumer.load, task, LiveTask.after]
      omega
  | @inspect left p task => cases left <;> simp [LiveConsumer.load, task]

/-- A consumer takes what is left only when it is told to, and finds nothing only where nothing
is. -/
theorem left (stepped : c.Stepped l consuming l' c')
    (h : c.drains = true → consuming = false ∧
      (c.foundNone = true → l.session.queue.queue.packets = []))
    (last : c'.drains = true) : consuming = false ∧
      (c'.foundNone = true → l'.session.queue.queue.packets = []) := by
  cases stepped with
  | look => exact ⟨by simpa [drains] using last, by simp [foundNone, Taking.foundNone]⟩
  | @move left t t' s task moved =>
    have was : c.drains = true := by simpa [drains, task] using last
    obtain rfl : left = true := by simpa [drains] using last
    obtain ⟨told, empty⟩ := h was
    refine ⟨told, fun found => ?_⟩
    refine Taking.foundNone_step (fun found => empty ?_) moved (by simpa [foundNone] using found)
    simpa [foundNone, task] using found
  | @through left patient packets task =>
    cases packets with
    | cons p rest =>
      have was : c.drains = true := by simpa [drains, task, LiveTask.after] using last
      exact ⟨(h was).1, by simp [foundNone, LiveTask.after]⟩
    | nil =>
      cases left with
      | true =>
        obtain ⟨told, empty⟩ := h (by simp [drains, task])
        exact ⟨told, fun _ => empty (by simp [foundNone, task, Taking.foundNone])⟩
      | false => cases patient <;> simp [drains, LiveTask.after] at last
  | @inspect left p task =>
    cases left with
    | true => exact ⟨(h (by simp [drains, task])).1, by simp [foundNone, Taking.foundNone]⟩
    | false => simp [drains] at last

end LiveConsumer.Stepped

/-! ## The invariant -/

namespace LivePipeline

/-- How far the supervisor has come, and what holds by then. -/
def Stage (p : LivePipeline σ τ) : Prop :=
  match p.supervisor with
  | .start c => c.starts = true ∧ p.consumers = [] ∧ p.consuming = true ∧
    p.base.session.failure = p.recorded
  | .look | .sleep | .stop => p.consumers.length = max p.asked 1 ∧ p.consuming = true ∧
    p.base.session.failure = p.recorded
  | .join c => p.consumers.length = max p.asked 1 ∧ p.consuming = true ∧ c.starts = false ∧
    match c.answer? with
    | some outcome => outcome = Call.verdict p.recorded
    | none => p.base.session.failure = p.recorded
  | .gather outcome => p.consumers.length = max p.asked 1 ∧ .stopped outcome ∈ p.base.calls ∧
    outcome = Call.verdict p.recorded
  | .done outcome => p.consumers.length = max p.asked 1 ∧ .stopped outcome ∈ p.base.calls ∧
    outcome = Call.verdict p.recorded ∧ ∀ c ∈ p.consumers, c.task = .done

structure Intact (p : LivePipeline Host Channel) : Prop where
  lawful : p.live.Lawful
  booked : p.live.Booked
  unbroken : p.base.Unbroken
  whole : p.base.ledger.lost = 0
  backend : p.base.session.backend = Datalink.backend
  clean : p.base.session.producer ≠ .ended false
  stage : p.Stage
  through : ∀ t ∈ p.base.takings, ∃ packets, t = .done packets
  single : ∀ c ∈ p.consumers, ∀ t ∈ c.taking, t.Single
  load : (p.base.takings.flatMap Taking.packets).length = (p.consumers.map LiveConsumer.load).sum
  -- Only consumers that were told take what is left, and they find nothing only where nothing is.
  left : ∀ c ∈ p.consumers, c.drains = true → p.consuming = false ∧
    (c.foundNone = true → p.base.session.queue.queue.packets = [])

namespace Intact

variable {p p' : LivePipeline Host Channel} {l : LiveSession Host Channel}

theorem over_of_stopped {outcome : Except CaptureError Unit} (h : p.Intact)
    (stopped : .stopped outcome ∈ p.live.calls) : Over p.live p.live.calls :=
  h.lawful.ended _ stopped rfl

theorem over_of_told (h : p.Intact) (told : p.consuming = false) : Over p.live p.live.calls := by
  have stage := h.stage
  unfold Stage at stage
  cases at_it : p.supervisor with
  | start | look | sleep | stop | join =>
    rw [at_it] at stage
    simp [told] at stage
  | gather outcome =>
    rw [at_it] at stage
    exact h.over_of_stopped (List.mem_append_left _ stage.2.1)
  | done outcome =>
    rw [at_it] at stage
    exact h.over_of_stopped (List.mem_append_left _ stage.2.1)

theorem produce (h : p.Intact) (moved : p.base.produce = some l)
    (lawful : ({ p with base := l } : LivePipeline Host Channel).live.Lawful)
    (booked : ({ p with base := l } : LivePipeline Host Channel).live.Booked) :
    Intact { p with base := l, recorded := p.base.keeping?.or p.recorded } := by
  have produced := LiveSession.produced_of_produce moved
  obtain ⟨calls, takings⟩ := produced.frame
  have present : p.base.session.producer ≠ .absent := by
    intro absent
    simp [LiveSession.produce, absent] at moved
  have untold : p.consuming = true := by
    by_contra told
    exact present (h.over_of_told (by simpa using told)).absent
  have failure := LiveSession.failure_produce moved
  have closes : ∀ stream, ∃ closed,
      (p.base.session.backend.close stream p.base.world).value.1 = (closed, .ok ()) := by
    intro stream
    rw [h.backend]
    exact Datalink.close_ok stream _
  refine ⟨lawful, booked, h.unbroken.produced produced, ?_, ?_, ?_, ?_, ?_, h.single, ?_, ?_⟩
  · exact (h.unbroken.lost_produced produced).trans h.whole
  · exact produced.settings.1.trans h.backend
  · exact LiveSession.clean_produce closes moved
  · have stage := h.stage
    unfold Stage at stage ⊢
    dsimp only
    cases at_it : p.supervisor with
    | start c =>
      rw [at_it] at stage
      exact ⟨stage.1, stage.2.1, untold, by rw [failure, stage.2.2.2]⟩
    | look | sleep | stop =>
      rw [at_it] at stage
      exact ⟨stage.1, untold, by rw [failure, stage.2.2]⟩
    | join c =>
      rw [at_it] at stage
      refine ⟨stage.1, untold, stage.2.2.1, ?_⟩
      have answer := stage.2.2.2
      cases answered : c.answer? with
      | none =>
        rw [answered] at answer
        exact failure.trans (congrArg _ answer)
      | some outcome =>
        cases Call.eq_stopped answered
        have stopped : .stopped outcome ∈ p.live.calls := by simp [live, at_it, LiveSupervisor.call]
        exact absurd (h.over_of_stopped stopped).absent present
    | gather outcome | done outcome =>
      rw [at_it] at stage
      exact absurd (h.over_of_stopped (List.mem_append_left _ stage.2.1)).absent present
  · rw [takings]
    exact h.through
  · rw [takings]
    exact h.load
  · intro c member drains
    have told := (h.left c member drains).1
    rw [untold] at told
    cases told

theorem consume {index : Nat} {c c' : LiveConsumer} (h : p.Intact)
    (found : p.consumers[index]? = some c) (stepped : c.Stepped p.base p.consuming l c')
    (lawful : ({ p with base := l, consumers := p.consumers.set index c' } :
      LivePipeline Host Channel).live.Lawful)
    (booked : ({ p with base := l, consumers := p.consumers.set index c' } :
      LivePipeline Host Channel).live.Booked) :
    Intact { p with base := l, consumers := p.consumers.set index c' } := by
  have present : c ∈ p.consumers := List.mem_of_getElem? found
  obtain ⟨others, was, now⟩ := exists_others found
  have now := now c'
  obtain ⟨session, calls, ingest, strategy, drained⟩ := stepped.frame
  have failure : l.session.failure = p.base.session.failure := by rw [session]
  -- what holds of each consumer holds of the one that moved and of the others
  have each {P : LiveConsumer → Prop} (one : P c') (rest : ∀ d ∈ p.consumers, P d) :
      ∀ d ∈ p.consumers.set index c', P d := by
    intro d member
    rcases List.mem_cons.mp (now.mem_iff.mp member) with rfl | other
    · exact one
    · exact rest d (was.mem_iff.mpr (List.mem_cons_of_mem _ other))
  refine ⟨lawful, booked, ?_, ?_, ?_, ?_, ?_, ?_, ?_, ?_, ?_⟩
  · exact h.unbroken.of_eq (by rw [session]) strategy ingest
  · exact drained.lost.trans h.whole
  · rw [session]
    exact h.backend
  · rw [session]
    exact h.clean
  · have stage := h.stage
    unfold Stage at stage ⊢
    dsimp only
    rw [List.length_set, calls, failure]
    cases at_it : p.supervisor with
    | start call =>
      rw [at_it] at stage
      rw [stage.2.1] at present
      cases present
    | done outcome =>
      rw [at_it] at stage
      exact absurd (stage.2.2.2 c present) stepped.working
    | look | sleep | stop | join | gather =>
      rw [at_it] at stage
      exact stage
  · intro t member
    rcases stepped.takings with same | ⟨packets, same⟩
    · rw [same] at member
      exact h.through t member
    · rw [same] at member
      rcases List.mem_append.mp member with old | new
      · exact h.through t old
      · exact ⟨packets, List.mem_singleton.mp new⟩
  · exact each (stepped.single (h.single c present)) h.single
  · have load := stepped.load (h.single c present)
    have before := h.load
    rw [(was.map LiveConsumer.load).sum_nat, List.map_cons, List.sum_cons] at before
    dsimp only
    rw [(now.map LiveConsumer.load).sum_nat, List.map_cons, List.sum_cons]
    omega
  · refine each (stepped.left (h.left c present)) fun d member drains => ?_
    obtain ⟨told, empty⟩ := h.left d member drains
    refine ⟨told, fun found => ?_⟩
    obtain ⟨gone, _, same⟩ := drained.handed
    have none := same.symm.trans (empty found)
    exact (List.append_eq_nil_iff.mp none).2

theorem of_call {c c' : Call Channel} {supervisor : LiveSupervisor Channel} (h : p.Intact)
    (moved : c.step p.base = some (l, c'))
    (lawful : ({ p with base := l, supervisor := supervisor } :
      LivePipeline Host Channel).live.Lawful)
    (booked : ({ p with base := l, supervisor := supervisor } :
      LivePipeline Host Channel).live.Booked)
    (stage : ({ p with base := l, supervisor := supervisor } : LivePipeline Host Channel).Stage) :
    Intact { p with base := l, supervisor := supervisor } := by
  obtain ⟨shared, ingest, takings, _⟩ := Call.step_frame moved
  have filters : l.session.filters = p.base.session.filters := congrArg SharedQueue.filters shared
  have queue : l.session.queue = p.base.session.queue := congrArg SharedQueue.queue shared
  have ledger : l.ledger = p.base.ledger := congrArg SharedQueue.ledger shared
  refine ⟨lawful, booked, h.unbroken.of_eq filters (by rw [queue]) ingest, ?_, ?_, ?_, stage, ?_,
    h.single, ?_, ?_⟩
  · dsimp only
    rw [ledger]
    exact h.whole
  · exact (Call.step_settings moved).1.trans h.backend
  · rcases Call.step_producer moved with ⟨same, _⟩ | ⟨_, _, active, _⟩ | ⟨_, _, absent, _⟩
    · dsimp only
      rw [same]
      exact h.clean
    · simp [active]
    · simp [absent]
  · dsimp only
    rw [takings]
    exact h.through
  · dsimp only
    rw [takings]
    exact h.load
  · dsimp only
    rw [queue]
    exact h.left

theorem supervise (h : p.Intact) (stepped : p.Supervised p') (lawful : p'.live.Lawful)
    (booked : p'.live.Booked) : p'.Intact := by
  have stage := h.stage
  unfold Stage at stage
  cases stepped with
  | @starting c c' l at_it moved =>
    rw [at_it] at stage
    obtain ⟨starts, none, untold, failure⟩ := stage
    have starts' := (Call.step_starts moved).trans starts
    refine h.of_call moved lawful booked ⟨starts', none, untold, ?_⟩
    have kept := Call.step_failure h.clean moved
    cases answered : c'.answer? with
    | none =>
      rw [answered] at kept
      exact kept.trans failure
    | some outcome =>
      cases Call.eq_stopped answered
      cases starts'
  | started at_it =>
    rw [at_it] at stage
    obtain ⟨_, none, untold, failure⟩ := stage
    have fresh : ∀ c ∈ p.consumers ++ List.replicate (max p.asked 1) ({} : LiveConsumer), c = {} := by
      rw [none, List.nil_append]
      exact fun c member => List.eq_of_mem_replicate member
    refine ⟨lawful, booked, h.unbroken.of_eq rfl rfl rfl, h.whole, h.backend, h.clean,
      ⟨by simp [none], untold, failure⟩, h.through, ?_, ?_, ?_⟩
    · intro c member
      simp [fresh c member, LiveConsumer.taking]
    · have load := h.load
      simp only [none, List.map_nil, List.sum_nil] at load
      simp [none, load, LiveConsumer.load]
    · intro c member
      simp [fresh c member, LiveConsumer.drains]
  | @turn next waits goes =>
    have early : p.consumers.length = max p.asked 1 ∧ p.consuming = true ∧
        p.base.session.failure = p.recorded := by
      rcases waits with at_it | at_it <;> rw [at_it] at stage <;> exact stage
    refine ⟨lawful, booked, h.unbroken, h.whole, h.backend, h.clean, ?_, h.through, h.single, h.load,
      h.left⟩
    rcases goes with rfl | rfl | rfl <;> exact early
  | stop at_it =>
    rw [at_it] at stage
    exact ⟨lawful, booked, h.unbroken, h.whole, h.backend, h.clean,
      ⟨stage.1, stage.2.1, rfl, stage.2.2⟩, h.through, h.single, h.load, h.left⟩
  | @joining c c' l at_it moved =>
    rw [at_it] at stage
    obtain ⟨spawned, untold, stops, answer⟩ := stage
    refine h.of_call moved lawful booked ⟨spawned, untold, (Call.step_starts moved).trans stops, ?_⟩
    have going : c.answer? = none := by cases c <;> first | rfl | cases moved
    rw [going] at answer
    have kept := Call.step_failure h.clean moved
    rw [answer] at kept
    exact kept
  | @joined outcome at_it =>
    rw [at_it] at stage
    obtain ⟨spawned, _, _, answer⟩ := stage
    refine ⟨lawful, booked, h.unbroken.of_eq rfl rfl rfl, h.whole, h.backend, h.clean,
      ⟨spawned, by simp, answer⟩, h.through, h.single, h.load, ?_⟩
    intro c member drains
    exact ⟨rfl, (h.left c member drains).2⟩
  | gathered at_it all =>
    rw [at_it] at stage
    exact ⟨lawful, booked, h.unbroken, h.whole, h.backend, h.clean,
      ⟨stage.1, stage.2.1, stage.2.2, all⟩, h.through, h.single, h.load, h.left⟩

theorem step {action : LivePipelineAction Host} (h : p.Intact) (stepped : p.step action = some p') :
    p'.Intact := by
  have tended := tended_of_step stepped
  have lawful := tended.lawful h.lawful
  have booked := tended.booked h.booked
  cases action with
  | produce =>
    simp only [LivePipeline.step, bind, Option.bind_eq_some_iff] at stepped
    obtain ⟨l, moved, same⟩ := stepped
    cases same
    exact h.produce moved lawful booked
  | consume index patient =>
    simp only [LivePipeline.step, bind, Option.bind_eq_some_iff] at stepped
    obtain ⟨c, found, ⟨l, c'⟩, moved, same⟩ := stepped
    cases same
    exact h.consume found (LiveConsumer.stepped_of_step moved) lawful booked
  | supervise now => exact h.supervise (supervised_of_supervise stepped) lawful booked
  | interrupt | outside =>
    cases stepped
    exact ⟨lawful, booked, h.unbroken.of_eq rfl rfl rfl, h.whole, h.backend, h.clean, h.stage,
      h.through, h.single, h.load, h.left⟩

theorem run {actions : List (LivePipelineAction Host)} (h : p.Intact)
    (ran : p.run actions = some p') : p'.Intact ∧ p'.asked = p.asked := by
  induction actions generalizing p with
  | nil =>
    cases ran
    exact ⟨h, rfl⟩
  | cons action rest ih =>
    simp only [LivePipeline.run, List.foldlM_cons, bind, Option.bind_eq_some_iff] at ran
    obtain ⟨next, stepped, ran⟩ := ran
    obtain ⟨intact, asked⟩ := ih (h.step stepped) ran
    exact ⟨intact, asked.trans (asked_of_step stepped)⟩

theorem start {config : Config} {before : Host} {s : Session Host Channel}
    (made : (Session.create config Datalink.backend before).value.1 = .ok (.ok s)) (world : Host)
    (consumers : Nat) (deadline : Option Nat) : (ofSession s world consumers deadline).Intact := by
  have fresh := Session.create_fresh made
  have begun : (LiveSession.ofSession s world).Acted (ofSession s world consumers deadline).live :=
    .beginCall (.inl rfl) (.refl _)
  have unbroken := Session.unbroken made world
  obtain ⟨_, _, _, rfl⟩ := Session.create_eq_ok made
  refine ⟨(LiveSession.Lawful.start fresh world).acted begun,
    (LiveSession.Booked.start fresh world).acted begun, unbroken, rfl, rfl,
    by simp [ofSession, LiveSession.ofSession], ⟨rfl, rfl, rfl, rfl⟩, ?_, ?_, rfl, ?_⟩ <;>
  · intro _ member
    cases member

end Intact

/-! ## The last report -/

end LivePipeline

theorem Metrics.inFlight_eq_zero {m : Metrics}
    (gone : m.enqueued = m.dequeued + m.dropped + m.rejected) : m.inFlight = 0 := by
  simp [inFlight, ← gone]

section

variable {s : SharedQueue} {takings : List Taking}

theorem Balanced.tallies_of_empty (h : Balanced s [] takings)
    (away : ∀ t ∈ takings, t.atQueue = false) (whole : s.ledger.lost = 0)
    (empty : s.queue.queue.packets = []) :
    Counter.captured.tally s.ledger.updates =
      Counter.filtered.tally s.ledger.updates + Counter.enqueued.tally s.ledger.updates ∧
    Counter.enqueued.tally s.ledger.updates = Counter.dequeued.tally s.ledger.updates +
      Counter.dropped.tally s.ledger.updates + Counter.rejected.tally s.ledger.updates ∧
    (takings.flatMap Taking.packets).length = Counter.dequeued.tally s.ledger.updates := by
  obtain ⟨upstream, downstream, received⟩ := h.tallies_of_quiet away
  rw [empty, List.length_nil] at downstream
  unfold Ledger.lost at whole
  omega

theorem Balanced.counters_of_empty (h : Balanced s [] takings)
    (away : ∀ t ∈ takings, t.atQueue = false) (whole : s.ledger.lost = 0)
    (empty : s.queue.queue.packets = []) :
    let metrics := s.queue.metrics
    UInt64.ofNat (takings.flatMap Taking.packets).length = metrics.dequeued ∧
    metrics.captured = metrics.filtered + metrics.enqueued ∧
    metrics.enqueued = metrics.dequeued + metrics.dropped + metrics.rejected := by
  intro metrics
  obtain ⟨upstream, downstream, received⟩ := h.values_of_quiet away
  obtain ⟨unjudged, undecided⟩ := Nat.add_eq_zero_iff.mp whole
  rw [unjudged] at upstream
  rw [empty, undecided] at downstream
  exact ⟨received, by simpa using upstream, by simpa using downstream⟩

theorem Balanced.toNat_of_empty (h : Balanced s [] takings)
    (away : ∀ t ∈ takings, t.atQueue = false) (whole : s.ledger.lost = 0)
    (empty : s.queue.queue.packets = []) (few : s.ledger.captured.length < 2 ^ 64) :
    let metrics := s.queue.metrics
    (takings.flatMap Taking.packets).length = metrics.dequeued.toNat ∧
    metrics.captured.toNat = metrics.filtered.toNat + metrics.enqueued.toNat ∧
    metrics.enqueued.toNat =
      metrics.dequeued.toNat + metrics.dropped.toNat + metrics.rejected.toNat := by
  intro metrics
  obtain ⟨upstream, downstream, received⟩ := h.tallies_of_empty away whole empty
  have captured : metrics.captured.toNat = _ := h.toNat_value few (c := .captured) (by decide)
  have filtered : metrics.filtered.toNat = _ := h.toNat_value few (c := .filtered) (by decide)
  have enqueued : metrics.enqueued.toNat = _ := h.toNat_value few (c := .enqueued) (by decide)
  have dequeued : metrics.dequeued.toNat = _ := h.toNat_value few (c := .dequeued) (by decide)
  have dropped : metrics.dropped.toNat = _ := h.toNat_value few (c := .dropped) (by decide)
  have rejected : metrics.rejected.toNat = _ := h.toNat_value few (c := .rejected) (by decide)
  omega

end

namespace LivePipeline

/-- What is found when the last report is made: all consumers are through, nothing is left, and the
counters tell what became of every packet. -/
structure Settled (p : LivePipeline σ τ) (outcome : Except CaptureError Unit) : Prop where
  consumers : p.consumers.length = max p.asked 1 ∧ ∀ c ∈ p.consumers, c.task = .done
  empty : p.base.session.queue.queue.packets = []
  received : UInt64.ofNat p.consumed = p.base.session.queue.metrics.dequeued
  upstream : p.base.session.queue.metrics.captured =
    p.base.session.queue.metrics.filtered + p.base.session.queue.metrics.enqueued
  downstream : p.base.session.queue.metrics.enqueued = p.base.session.queue.metrics.dequeued +
    p.base.session.queue.metrics.dropped + p.base.session.queue.metrics.rejected
  counted : p.base.ledger.captured.length < 2 ^ 64 →
    let metrics := p.base.session.queue.metrics
    p.consumed = metrics.dequeued.toNat ∧
    metrics.captured.toNat = metrics.filtered.toNat + metrics.enqueued.toNat ∧
    metrics.enqueued.toNat =
      metrics.dequeued.toNat + metrics.dropped.toNat + metrics.rejected.toNat
  answer : outcome = Call.verdict p.recorded

theorem Intact.settled {p : LivePipeline Host Channel} {outcome : Except CaptureError Unit}
    (h : p.Intact) (reported : p.outcome? = some outcome) : p.Settled outcome := by
  have stage := h.stage
  unfold Stage at stage
  rw [outcome?_eq_some.mp reported] at stage
  obtain ⟨spawned, stopped, answer, all⟩ := stage
  have ended := h.over_of_stopped (List.mem_append_left _ stopped)
  have inside : p.base.ingest = none := h.lawful.orderly.outside ended.absent
  have empty : p.base.session.queue.queue.packets = [] := by
    obtain ⟨c, member⟩ := List.exists_mem_of_length_pos
      (show 0 < p.consumers.length by rw [spawned]; omega)
    have found : c.foundNone = true := by simp [LiveConsumer.foundNone, all c member]
    have drains : c.drains = true := by simp [LiveConsumer.drains, all c member]
    exact (h.left c member drains).2 found
  have alone : p.consumers.flatMap LiveConsumer.taking = [] :=
    List.flatMap_eq_nil_iff.mpr fun c member => by simp [LiveConsumer.taking, all c member]
  have consumed : (p.base.takings.flatMap Taking.packets).length = p.consumed := by
    rw [h.load, LivePipeline.consumed]
    congr 1
    refine List.map_congr_left fun c member => ?_
    simp [LiveConsumer.load, all c member]
  have books : Balanced p.base.shared [] p.base.takings := by
    have books := h.booked
    unfold LiveSession.Booked at books
    simpa [live, LiveSession.shared, inside, alone] using books
  have away : ∀ t ∈ p.base.takings, t.atQueue = false := by
    intro t member
    obtain ⟨packets, rfl⟩ := h.through t member
    rfl
  obtain ⟨received, upstream, downstream⟩ := books.counters_of_empty away h.whole empty
  rw [consumed] at received
  refine ⟨⟨spawned, all⟩, empty, received, upstream, downstream, fun few => ?_, answer⟩
  have shown := books.toNat_of_empty away h.whole empty few
  rw [consumed] at shown
  exact shown

theorem value_conclude_verdict (recorded : Option CaptureError) (w : Workplace) :
    (Capture.conclude (Call.verdict recorded) w).value.1 =
      match recorded with
      | some e => .error (.failed { contexts := ["Capture source failed"], cause := .capture e })
      | none => .ok () := by
  rw [Capture.conclude, Job.value_within_ofCapture]
  cases recorded <;> rfl

/-- Whatever the schedule, when the last report is made all consumers have come to their end, the
queue is empty, what they have consumed is what was dequeued, every captured packet was filtered,
consumed, dropped or rejected, and the command fails just when the producer kept a failure. What is
executed is such a run (`Capture.Begins.among_threads`, `Capture.Begins.settled`). -/
theorem nothing_lost {config : Config} {before world : Host} {session : Session Host Channel}
    {consumers : Nat} {deadline : Option Nat} {actions : List (LivePipelineAction Host)}
    {p : LivePipeline Host Channel} {outcome : Except CaptureError Unit}
    (made : (Session.create config Datalink.backend before).value.1 = .ok (.ok session))
    (ran : (ofSession session world consumers deadline).run actions = some p)
    (reported : p.outcome? = some outcome) :
    let metrics := p.base.session.queue.metrics
    (p.consumers.length = max consumers 1 ∧ ∀ c ∈ p.consumers, c.task = .done) ∧
    p.base.session.queue.queue.packets = [] ∧
    UInt64.ofNat p.consumed = metrics.dequeued ∧ metrics.inFlight = 0 ∧
    metrics.captured = metrics.filtered + metrics.enqueued ∧
    metrics.enqueued = metrics.dequeued + metrics.dropped + metrics.rejected ∧
    (p.base.ledger.captured.length < 2 ^ 64 → p.consumed = metrics.dequeued.toNat ∧
      metrics.captured.toNat = metrics.filtered.toNat + metrics.enqueued.toNat ∧
      metrics.enqueued.toNat =
        metrics.dequeued.toNat + metrics.dropped.toNat + metrics.rejected.toNat) ∧
    ∀ w, (Capture.conclude outcome w).value.1 =
      match p.recorded with
      | some e => .error (.failed { contexts := ["Capture source failed"], cause := .capture e })
      | none => .ok () := by
  obtain ⟨h, asked⟩ := (Intact.start made world consumers deadline).run ran
  obtain ⟨⟨spawned, all⟩, empty, received, upstream, downstream, counted, rfl⟩ := h.settled reported
  rw [asked] at spawned
  exact ⟨⟨spawned, all⟩, empty, received, Metrics.inFlight_eq_zero downstream, upstream, downstream,
    counted, value_conclude_verdict p.recorded⟩

/-- Of two frames the first is taken at once. The second is still there when the user interrupts the
capture, and the source fails while the stop waits for the producer. -/
theorem nothing_lost_of_interrupt :
    let host : Host := {
      adapters := [{ name := "eth0" }]
      events := [.frame [1], .frame [2, 3], .failure (.ofKind .other)] }
    let actions : List (LivePipelineAction Host) := List.flatten [
      .replicate 7 (.supervise 0), .replicate 10 .produce, .replicate 7 (.consume 0 false),
      .replicate 15 .produce, .replicate 2 (.consume 1 false), [.interrupt],
      .replicate 5 (.supervise 0), .replicate 4 .produce, .replicate 4 (.supervise 0),
      .replicate 5 (.consume 1 false), .replicate 5 (.consume 0 false),
      .replicate 5 (.consume 1 false), [.supervise 0]]
    let failure := CaptureError.sourceFailure "Capture error: eth0: other error"
    ∃ session p, (Session.create { capture := { interface := some (.name "eth0") } }
        Datalink.backend host).value.1 = .ok (.ok session) ∧
      (ofSession session host 2 none).run actions = some p ∧
      p.outcome? = some (.error failure) ∧ p.recorded = some failure ∧
      p.base.session.queue.queue.packets = [] ∧ p.consumed = 2 ∧
      p.base.session.queue.metrics.dequeued.toNat = 2 ∧ p.base.session.queue.metrics.inFlight = 0 ∧
      ∀ w, (Capture.conclude (.error failure) w).value.1 =
        .error (.failed { contexts := ["Capture source failed"], cause := .capture failure }) := by
  intro host actions failure
  obtain ⟨session, made⟩ : ∃ session, (Session.create
      { capture := { interface := some (.name "eth0") } } Datalink.backend host).value.1 =
        .ok (.ok session) := ⟨_, rfl⟩
  obtain ⟨p, ran, now⟩ : ∃ p, (ofSession session host 2 none).run actions = some p ∧
      (p.outcome?, p.recorded, p.consumed, p.base.ledger.captured.length) =
        (some (.error failure), some failure, 2, 2) := by
    rw [← Option.map_eq_some_iff]
    cases made
    decide +kernel
  simp only [Prod.mk.injEq] at now
  obtain ⟨reported, recorded, consumed, captured⟩ := now
  obtain ⟨_, empty, _, inFlight, _, _, counted, told⟩ := nothing_lost made ran reported
  obtain ⟨dequeued, _⟩ := counted (by rw [captured]; decide)
  rw [recorded] at told
  exact ⟨session, p, made, ran, reported, recorded, empty, consumed, dequeued ▸ consumed, inFlight,
    told⟩

end LivePipeline
end CaptureQueue
