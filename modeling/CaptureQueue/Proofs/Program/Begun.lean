import CaptureQueue.Program
import CaptureQueue.Proofs.Pipeline.Drained
import CaptureQueue.Proofs.Pipeline.Ending
import CaptureQueue.Proofs.Program.Job
import CaptureQueue.Proofs.Session.Creation

/-! The executed command by its parts: a configuration is settled, a session made and started, and the
threads are watched to the end of the capture. -/

set_option autoImplicit false
namespace CaptureQueue

variable {w w' : Workplace}

namespace ConfigFile

variable {e : Surroundings} {named : Option String}

theorem value_loadEffective (e : Surroundings) (named : Option String) (w : Workplace) :
    (loadEffective e named w).value =
      (match find? e w.files named with
        | none => .ok {}
        | some path => (Config.load w.files path).mapError fun f =>
          .within ("Failed to load config from " ++ path) (.failed { cause := .capture f }), w) := by
  rw [loadEffective, Job.value_get_bind]
  cases find? e w.files named with
  | none => rfl
  | some path =>
    have logged := Job.value_log (record "Loading configuration" path) w
    rw [Job.value_bind_of_ok logged, loadAt, Job.value_get_bind, Job.value_within_ofCapture]

theorem loadEffective_cases (e : Surroundings) (named : Option String) (w : Workplace) :
    (∃ f, (loadEffective e named w).value = (.error (.failed f), w)) ∨
      ∃ c, (loadEffective e named w).value = (.ok c, w) := by
  rw [value_loadEffective]
  cases find? e w.files named with
  | none => exact .inr ⟨{}, rfl⟩
  | some path =>
    dsimp only
    cases Config.load w.files path with
    | error f => exact .inl ⟨_, rfl⟩
    | ok c => exact .inr ⟨c, rfl⟩

end ConfigFile

theorem Session.create_events (c : Config) (h : Host) :
    (create c Datalink.backend h).value.2.events = h.events := by
  have listed (h : Host) : (Datalink.backend.interfaces h).value =
      (.ok (.ofList ((Host.listing h).value.1.map (·.name))), (Host.listing h).value.2) := rfl
  have chosen (h : Host) :
      (Datalink.backend.defaultInterface h).value.2 = (Host.listing h).value.2 := rfl
  cases valid : c.validate with
  | error e => rw [create_of_flawed valid]
  | ok _ =>
    rw [create_world valid, Backend.resolve_world, listed]
    dsimp only
    split
    · rw [chosen, Datalink.listing_events, Datalink.listing_events]
    · exact Datalink.listing_events h

namespace Capture

variable {e : Surroundings} {o : RunOptions} {named : Option String} {c : Config} {s s' : HostSession}

theorem configure_cases (e : Surroundings) (o : RunOptions) (named : Option String) (w : Workplace) :
    (∃ f w', (configure e o named w).value = (.error (.failed f), w')) ∨
      ∃ c, c.validate = .ok () ∧ (configure e o named w).value = (.ok c, w) := by
  unfold configure
  obtain ⟨f, failed⟩ | ⟨loaded, settled⟩ := ConfigFile.loadEffective_cases e named w
  · rw [Job.value_bind_of_error failed]
    exact .inl ⟨f, w, rfl⟩
  · rw [Job.value_bind_of_ok settled, Job.value_bind, Job.value_within_ofCapture]
    cases checked : (o.override loaded).validate with
    | error f => exact .inl ⟨_, _, rfl⟩
    | ok _ => exact .inr ⟨_, checked, rfl⟩

theorem openSession_cases (c : Config) (w : Workplace) :
    (∃ f told w', Session.Obstacle c Datalink.backend w.host f ∧
      (openSession c w).value = (.error (.failed told), w')) ∨
    ((∃ name, Datalink.backend.Offers w.host c.capture.interface name) ∧ ¬ c.Allocatable ∧
      ∃ w', (openSession c w).value = (.error (.broken (.ofText "capacity overflow")), w')) ∨
    c.Allocatable ∧ ∃ s, (Session.create c Datalink.backend w.host).value.1 = .ok (.ok s) ∧
      (openSession c w).value =
        (.ok s, { w with host := (Session.create c Datalink.backend w.host).value.2 }) := by
  unfold openSession
  rw [Job.value_within, Job.value_bind_of_ok (Job.value_onHost _ w), Job.value_bind, Job.value_ofFaulty]
  obtain ⟨f, obstacle⟩ | ⟨_, name, offered, ⟨fits, whole⟩ | ⟨large, broke⟩⟩ :=
    Session.create_cases c Datalink.backend w.host
  · rw [Session.create_of_obstacle obstacle]
    exact .inl ⟨f, _, _, obstacle, rfl⟩
  · rw [whole]
    exact .inr (.inr ⟨fits, _, rfl, rfl⟩)
  · rw [broke]
    exact .inr (.inl ⟨⟨name, offered⟩, large, _, rfl⟩)

section

variable {α : Type} {job : Job α} {a : α} {h : Halt}

theorem value_guarding_of_ok (done : (job w).value = (.ok a, w')) :
    (guarding s job w).value = (.ok a, w') := by
  unfold guarding
  rw [Job.value_tryCatch, done]

theorem value_guarding_of_error (failed : (job w).value = (.error h, w')) :
    ∃ later, (guarding s job w).value = (.error h, later) := by
  unfold guarding
  rw [Job.value_tryCatch, failed]
  dsimp only
  rw [Job.value_bind_of_ok (Job.value_onHost _ w'), Job.value_bind_of_ok (Job.value_onHost _ _)]
  exact ⟨_, rfl⟩

end

theorem start_cases (e : Surroundings) (s : HostSession) (w : Workplace) :
    (∃ f w', (start e s w).value = (.error (.failed f), w')) ∨
      (s.start w.host).value.1.2 = .ok () ∧ (start e s w).value =
        (.ok (s.start w.host).value.1.1, { w with host := (s.start w.host).value.2 }) := by
  unfold start
  cases e.handlerRefusal with
  | some refusal =>
    have answer : ((Job.within "Failed to set signal handler" (Job.fail (.told refusal)) : Job Unit)
        w).value = (.error (.within _ (.failed { cause := .told refusal })), w) := rfl
    obtain ⟨later, ended⟩ := value_guarding_of_error (s := s) answer
    dsimp only
    rw [Job.value_bind_of_error ended]
    exact .inl ⟨_, _, rfl⟩
  | none =>
    dsimp only
    rw [Job.value_bind_of_ok (Job.value_onHost _ w)]
    have answer := Job.value_within_ofCapture "Failed to start capture" (s.start w.host).value.1.2
      { w with host := (s.start w.host).value.2 }
    cases started : (s.start w.host).value.1.2 with
    | error f =>
      rw [started] at answer
      obtain ⟨later, ended⟩ := value_guarding_of_error (s := (s.start w.host).value.1.1) answer
      rw [Job.value_bind_of_error ended]
      exact .inl ⟨_, _, rfl⟩
    | ok _ =>
      rw [started] at answer
      rw [Job.value_bind_of_ok (value_guarding_of_ok answer)]
      exact .inr ⟨rfl, rfl⟩

theorem value_conclude (outcome : Except CaptureError Unit) (w : Workplace) :
    (conclude outcome w).value = (outcome.mapError fun f =>
      .failed { contexts := ["Capture source failed"], cause := .capture f }, w) :=
  Job.value_within_ofCapture "Capture source failed" outcome w

/-- What is watched: the threads of the capture, to the end of their schedule. -/
def ending (o : RunOptions) (s : HostSession) (deadline : Option Nat) (h : Host) :
    Pipeline Host Channel :=
  ((Schedule.ofPipeline (.ofSession s o.consumers deadline (1000 * o.statsInterval))
    o.consumeDelay).run h).value.1.pipeline

theorem value_watch (e : Surroundings) (o : RunOptions) (s : HostSession) (deadline : Option Nat)
    (w : Workplace) : (watch e o s deadline w).value.1 =
      match (ending o s deadline w.host).outcome? with
      | some outcome => outcome.mapError fun f =>
          .failed { contexts := ["Capture source failed"], cause := .capture f }
      | none => .error .endless := by
  unfold watch
  rw [Job.value_bind_of_ok (Job.value_onHost _ w), Job.value_bind_of_ok (Job.value_printAll _ _)]
  unfold ending
  generalize ((Schedule.ofPipeline (.ofSession s o.consumers deadline (1000 * o.statsInterval))
    o.consumeDelay).run w.host).value = ran
  cases ran.1.pipeline.outcome? with
  | none => rfl
  | some outcome =>
    dsimp only
    rw [value_conclude]

/-- The command has come to capture, with that session, in that workplace. -/
def Begins (e : Surroundings) (o : RunOptions) (named : Option String) (w : Workplace)
    (s : HostSession) (w' : Workplace) : Prop :=
  ∃ c s₀ w₀, (configure e o named w).value = (.ok c, w) ∧ (openSession c w).value = (.ok s₀, w₀) ∧
    (start e s₀ w₀).value = (.ok s, w')

theorem Begins.value_run (begun : Begins e o named w s w') : (run e o named w).value.1 =
    match o.deadline e.uptime with
    | .error fault => .error (.broken fault)
    | .ok deadline => (watch e o s deadline w').value.1 := by
  obtain ⟨c, s₀, w₀, settled, opened, started⟩ := begun
  unfold run
  rw [Job.value_bind_of_ok settled, Job.value_bind_of_ok opened, Job.value_bind_of_ok started,
    Job.value_bind_of_ok (Job.value_log _ w')]
  have told := Job.value_ofFaulty (o.deadline e.uptime) w'
  cases set : o.deadline e.uptime with
  | error fault =>
    rw [set] at told
    obtain ⟨later, broke⟩ := value_guarding_of_error (s := s) told
    rw [Job.value_bind_of_error broke]
  | ok deadline =>
    rw [set] at told
    rw [Job.value_bind_of_ok (value_guarding_of_ok told)]

theorem Begins.exists_start (begun : Begins e o named w s w') : ∃ c s₀,
    (Session.create c Datalink.backend w.host).value.1 = .ok (.ok s₀) ∧
      (s₀.start (Session.create c Datalink.backend w.host).value.2).value = ((s, .ok ()), w'.host) := by
  obtain ⟨c, s₀, w₀, settled, opened, started⟩ := begun
  obtain ⟨_, _, _, -, failed⟩ | ⟨-, -, _, broke⟩ | ⟨-, s₁, made, same⟩ := openSession_cases c w
  · rw [opened] at failed
    cases failed
  · rw [opened] at broke
    cases broke
  cases opened.symm.trans same
  obtain ⟨f, _, failed⟩ | ⟨passed, same⟩ := start_cases e s₀ _
  · rw [started] at failed
    cases failed
  cases started.symm.trans same
  exact ⟨c, s₀, made, Prod.ext (Prod.ext rfl passed) rfl⟩

/-- None of the events has happened when a capture begins. -/
theorem Begins.session (begun : Begins e o named w s w') :
    s.Begun ∧ w'.host.events = w.host.events := by
  obtain ⟨c, s₀, made, started⟩ := begun.exists_start
  have just := Session.begun_of_start made (congrArg (·.1.2) started)
  rw [started] at just
  exact ⟨just.1, just.2.trans (Session.create_events c w.host)⟩

/-- The configuration is settled and the interface is there, but the queue is too large. -/
def TooLarge (e : Surroundings) (o : RunOptions) (named : Option String) (w : Workplace) : Prop :=
  ∃ c, (configure e o named w).value.1 = .ok c ∧
    (∃ name, Datalink.backend.Offers w.host c.capture.interface name) ∧ ¬ c.Allocatable

theorem TooLarge.value_run (large : TooLarge e o named w) :
    (run e o named w).value.1 = .error (.broken (.ofText "capacity overflow")) := by
  obtain ⟨c, settled, ⟨name, offered⟩, large⟩ := large
  obtain ⟨f, _, failed⟩ | ⟨c', valid, same⟩ := configure_cases e o named w
  · rw [failed] at settled
    cases settled
  rw [same] at settled
  cases settled
  unfold run
  rw [Job.value_bind_of_ok same]
  obtain ⟨_, _, _, flawed | ⟨-, refused⟩, -⟩ | ⟨-, -, _, broke⟩ | ⟨fits, -⟩ := openSession_cases c w
  · cases valid.symm.trans flawed
  · cases offered.resolve.symm.trans refused.resolve
  · rw [Job.value_bind_of_error broke]
  · exact absurd fits large

theorem run_cases (e : Surroundings) (o : RunOptions) (named : Option String) (w : Workplace) :
    (∃ f, (run e o named w).value.1 = .error (.failed f)) ∨ TooLarge e o named w ∨
      ∃ s w', Begins e o named w s w' := by
  unfold run
  obtain ⟨f, _, failed⟩ | ⟨c, valid, settled⟩ := configure_cases e o named w
  · rw [Job.value_bind_of_error failed]
    exact .inl ⟨f, rfl⟩
  rw [Job.value_bind_of_ok settled]
  obtain ⟨_, told, _, -, failed⟩ | ⟨offered, large, -⟩ | ⟨-, s, -, opened⟩ := openSession_cases c w
  · rw [Job.value_bind_of_error failed]
    exact .inl ⟨told, rfl⟩
  · exact .inr (.inl ⟨c, by rw [settled], offered, large⟩)
  rw [Job.value_bind_of_ok opened]
  obtain ⟨f, _, failed⟩ | ⟨-, started⟩ := start_cases e s _
  · rw [Job.value_bind_of_error failed]
    exact .inl ⟨f, rfl⟩
  · exact .inr (.inr ⟨_, _, c, s, _, settled, opened, started⟩)

/-! ## What an executed capture leaves behind -/

/-- What is watched of a capture is the same capture among threads, at some point of it. -/
theorem Begins.among_threads (begun : Begins e o named w s w') (deadline : Option Nat) :
    ∃ q world, q.Intact ∧ q.asked = o.consumers ∧
      (ending o s deadline w'.host).Matches world q := by
  obtain ⟨c, s₀, made, started⟩ := begun.exists_start
  let p : Pipeline Host Channel := .ofSession s o.consumers deadline (1000 * o.statsInterval)
  let schedule := Schedule.ofPipeline p o.consumeDelay
  -- The schedule is a run of the pipeline, and that is one among threads.
  obtain ⟨actions, ran⟩ := schedule.exists_run (schedule.fuel w'.host) w'.host
  have watched : (p.run actions w'.host).value.1 = ending o s deadline w'.host := congrArg Prod.fst ran
  obtain ⟨q, ⟨steps, reached⟩, same⟩ := Pipeline.run_among_threads (Session.create_fresh made).producer
    (congrArg (·.1.2) started) o.consumers deadline (1000 * o.statsInterval) actions
  obtain ⟨intact, asked⟩ := (LivePipeline.Intact.start made _ o.consumers deadline).run reached
  rw [started] at same
  exact ⟨q, _, intact, asked, watched ▸ same⟩

/-- An executed capture that comes to its end has lost nothing, and the command tells that end. -/
theorem Begins.settled {deadline : Option Nat} {outcome : Except CaptureError Unit}
    (begun : Begins e o named w s w') (set : o.deadline e.uptime = .ok deadline)
    (ended : (ending o s deadline w'.host).outcome? = some outcome) :
    let p := ending o s deadline w'.host
    let metrics := p.session.queue.metrics
    (p.consumers.length = max o.consumers 1 ∧ ∀ c ∈ p.consumers, c.task = .done) ∧
    p.session.queue.queue.packets = [] ∧
    UInt64.ofNat p.consumed = metrics.dequeued ∧ metrics.inFlight = 0 ∧
    metrics.captured = metrics.filtered + metrics.enqueued ∧
    metrics.enqueued = metrics.dequeued + metrics.dropped + metrics.rejected ∧
    (run e o named w).value.1 = (conclude outcome w').value.1 := by
  obtain ⟨q, world, intact, asked, same⟩ := begun.among_threads deadline
  have settled := intact.settled (same.outcome?.trans ended)
  have number : q.consumers.length = (ending o s deadline w'.host).consumers.length := by
    rw [same.consumers, List.length_map]
  have told : (run e o named w).value.1 = (conclude outcome w').value.1 := by
    rw [begun.value_run, set]
    dsimp only
    rw [value_watch, ended, value_conclude]
  refine ⟨⟨?_, fun c member => ?_⟩, ?_, ?_, ?_, ?_, ?_, told⟩
  · rw [← number, settled.consumers.1, asked]
  · exact same.all_done settled.consumers.2 c member
  · rw [← same.session]
    exact settled.empty
  · rw [← same.session, ← same.consumed]
    exact settled.received
  · rw [← same.session]
    exact Metrics.inFlight_eq_zero settled.downstream
  · rw [← same.session]
    exact settled.upstream
  · rw [← same.session]
    exact settled.downstream

end Capture
end CaptureQueue
