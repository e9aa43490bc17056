import CaptureQueue.Proofs.Session.Played

/-! Captures from two backends that are fed alike come to the same end, however their threads run:
what counts is which frames were read before a failure. So a capture from memory stands in for one
from a real host. -/

set_option autoImplicit false
namespace CaptureQueue

variable {σ τ : Type}

namespace LiveSession

variable {b : Backend σ τ} {feeding : b.Feeding} {s : Session σ τ} {script : List FeedItem}
  {l l' : LiveSession σ τ}

/-! ## At the end of a script -/

/-- The producer has nothing more to do with what its backend was fed: nothing is left to read, or it
is through with its stream. If that is because it was told to stop, then all up to a failure has been
read by then. -/
def Through (feeding : b.Feeding) (script : List FeedItem) (l : LiveSession σ τ) : Prop :=
  match l.session.producer with
  | .active .poll _ _ | .active .read _ _ => feeding.left l.world = []
  | .active .close _ _ | .ended _ =>
    l.Unattended ∨ feeding.left l.world = FeedItem.unread script
  | .active _ _ _ => False
  | .absent => l.closed ≠ [] ∧ feeding.left l.world = FeedItem.unread script

def Goes (l l' : LiveSession σ τ) : Prop := l.step .produce = some l'

theorem OnScript.goes (h : l.OnScript feeding s script) (went : Relation.ReflTransGen Goes l l') :
    l'.OnScript feeding s script ∧ (l.Unattended → l'.Unattended) := by
  induction went with
  | refl => exact ⟨h, id⟩
  | tail _ next ih =>
    refine ⟨ih.1.step rfl next, fun nobody => ?_⟩
    unfold Unattended
    rw [(produced_of_produce next).frame.1]
    exact ih.2 nobody

-- The work on a frame goes on to its end, as it would have if nobody had come in between.
theorem goes_of_work {a : SharedQueue × Ingest} {q : SharedQueue} {result : Except Fault Unit}
    {data : Bytes} {stream : τ} {number : Nat} {world : σ}
    (work : Relation.ReflTransGen Ingest.Next a (q, .done result))
    (on : l.session.producer = .active (.ingest data) stream number) (here : l.world = world)
    (at_it : (l.shared, l.ingest.getD (.capture { sequence := number, data := data })) = a) :
    ∃ l', Relation.ReflTransGen Goes l l' ∧
      l'.session.producer = .active (.ingest data) stream number ∧
      l'.ingest = some (.done result) ∧ l'.world = world := by
  induction work using Relation.ReflTransGen.head_induction_on generalizing l with
  | refl =>
    obtain ⟨_, through⟩ := Prod.mk.inj at_it
    exact ⟨l, .refl, on, through_of_getD through, here⟩
  | @head a c next _ ih =>
    obtain ⟨shared, i⟩ := c
    subst at_it
    obtain ⟨l', went, there⟩ := ih (l := { l.withShared shared with ingest := some i }) on here rfl
    exact ⟨l', .head (produce_of_next on rfl next) went, there⟩

theorem OnScript.finish {data : Bytes} {stream : τ} {number : Nat} (h : l.OnScript feeding s script)
    (on : l.session.producer = .active (.ingest data) stream number) :
    ∃ l', Relation.ReflTransGen Goes l l' ∧
      l'.session.producer = .active .poll stream (number + 1) ∧ l'.world = l.world := by
  obtain ⟨frames, failed, failures, progress⟩ := h.progress
  have stage := progress.stage
  unfold Stage at stage
  rw [on] at stage
  obtain ⟨_, earlier, last, rfl, rfl, rfl, ledger, work⟩ := stage
  obtain ⟨shared, alone, _⟩ := Session.ingest_alone
    { s.takeFrames earlier with filters := s.filters } ledger earlier.length
    (last.take s.options.snaplen)
  have rest := Ingest.rest_of_done work alone
  obtain ⟨l', went, on', through, here⟩ := goes_of_work rest on rfl rfl
  have met := (h.goes went).1.unbroken.work _ through
  cases result : (({ s.takeFrames earlier with filters := s.filters } : Session σ τ).ingest
      earlier.length (last.take s.options.snaplen)).value.2 with
  | error fault =>
    rw [result] at met
    cases met
  | ok _ =>
    rw [result] at through
    exact ⟨_, went.tail (produce_of_through on' through), rfl, here⟩

theorem Goes.of_errand {task : ProducerTask} {stream : τ} {number : Nat}
    (on : l.session.producer = .active task stream number)
    (task_eq : task = .poll ∨ task = .read ∨ task = .halt ∨ ∃ e, task = .fail e) :
    Goes l l.errand := by
  rcases task_eq with rfl | rfl | rfl | ⟨e, rfl⟩ <;> simp [Goes, step, LiveSession.produce, on]

theorem OnScript.through_of_halt {stream : τ} {number : Nat} (h : l.OnScript feeding s script)
    (nobody : l.Unattended) (on : l.session.producer = .active .halt stream number) :
    ∃ l', Relation.ReflTransGen Goes l l' ∧ l'.Through feeding script := by
  have halted : Goes l l.errand := .of_errand on (by simp)
  have closing : l.errand.session.producer = .active .close stream number := by rw [errand_halt on]
  refine ⟨_, .single halted, ?_⟩
  unfold Through
  rw [closing]
  exact .inl ((h.goes (.single halted)).2 nobody)

theorem OnScript.through_of_fail {e : CaptureError} {stream : τ} {number : Nat}
    (h : l.OnScript feeding s script) (nobody : l.Unattended)
    (on : l.session.producer = .active (.fail e) stream number) :
    ∃ l', Relation.ReflTransGen Goes l l' ∧ l'.Through feeding script := by
  have failed : Goes l l.errand := .of_errand on (by simp)
  have halting : l.errand.session.producer = .active .halt stream number := by rw [errand_fail on]
  obtain ⟨held, still⟩ := h.goes (.single failed)
  obtain ⟨l', more, through⟩ := held.through_of_halt (still nobody) halting
  exact ⟨l', .head failed more, through⟩

/-- From one reading to the next the feed wanes, or the capture comes to its end. -/
theorem OnScript.round {stream : τ} {number : Nat} (h : l.OnScript feeding s script)
    (nobody : l.Unattended) (on : l.session.producer = .active .read stream number)
    (some : feeding.left l.world ≠ []) :
    ∃ l', Relation.ReflTransGen Goes l l' ∧ (l'.Through feeding script ∨
      (∃ number, l'.session.producer = .active .poll stream number) ∧
        b.pending l'.world < b.pending l.world) := by
  have backend := h.backend
  subst backend
  have came : Goes l l.errand := .of_errand on (by simp)
  obtain ⟨held, still⟩ := h.goes (.single came)
  have wanes := feeding.wanes s.options stream l.world
    (h.reads stream (by simp [on, Producer.streams])) some
  have world : l.errand.world = (l.session.backend.read stream l.world).value.2 := by
    rw [errand_read on]
  have next : l.errand.session.producer = .active
      (Session.afterRead (l.session.backend.read stream l.world).value.1).value stream number := by
    rw [errand_read on]
  rw [← world] at wanes
  cases reading : (l.session.backend.read stream l.world).value.1 with
  | idle =>
    rw [reading] at next
    exact ⟨_, .single came, .inr ⟨⟨_, next⟩, wanes⟩⟩
  | frame data =>
    rw [reading] at next
    obtain ⟨l', more, polls, here⟩ := held.finish next
    exact ⟨l', .head came more, .inr ⟨⟨_, polls⟩, here ▸ wanes⟩⟩
  | failed | broken =>
    rw [reading] at next
    obtain ⟨l', more, through⟩ := held.through_of_fail (still nobody) next
    exact ⟨l', .head came more, .inl through⟩

theorem OnScript.looks {stream : τ} {number : Nat} (h : l.OnScript feeding s script)
    (nobody : l.Unattended) (on : l.session.producer = .active .poll stream number) :
    Goes l l.errand ∧ l.errand.session.producer = .active .read stream number ∧
      l.errand.world = l.world := by
  have course := (h.course nobody).course
  unfold Course at course
  rw [on] at course
  exact ⟨.of_errand on (by simp), by rw [errand_poll on, if_pos course.2], by rw [errand_poll on]⟩

-- By induction on what the backend has pending: it wanes with each round.
theorem OnScript.through_of_read {stream : τ} {number : Nat} (h : l.OnScript feeding s script)
    (nobody : l.Unattended) (on : l.session.producer = .active .read stream number) :
    ∃ l', Relation.ReflTransGen Goes l l' ∧ l'.Through feeding script := by
  induction pending : b.pending l.world using Nat.strong_induction_on generalizing l number with
  | _ n ih =>
    by_cases none : feeding.left l.world = []
    · refine ⟨l, .refl, ?_⟩
      unfold Through
      rw [on]
      exact none
    · obtain ⟨m, went, through | ⟨⟨number, polls⟩, less⟩⟩ := h.round nobody on none
      · exact ⟨m, went, through⟩
      · obtain ⟨held, still⟩ := h.goes went
        obtain ⟨next, reads, here⟩ := held.looks (still nobody) polls
        obtain ⟨after, nobody⟩ := held.goes (.single next)
        rw [← here, pending] at less
        obtain ⟨l', more, through⟩ := ih _ less after (nobody (still ‹_›)) reads rfl
        exact ⟨l', (went.tail next).trans more, through⟩

theorem OnScript.through_of_poll {stream : τ} {number : Nat} (h : l.OnScript feeding s script)
    (nobody : l.Unattended) (on : l.session.producer = .active .poll stream number) :
    ∃ l', Relation.ReflTransGen Goes l l' ∧ l'.Through feeding script := by
  obtain ⟨next, reads, _⟩ := h.looks nobody on
  obtain ⟨held, still⟩ := h.goes (.single next)
  obtain ⟨l', more, through⟩ := held.through_of_read (still nobody) reads
  exact ⟨l', .head next more, through⟩

/-- However it was fed, a capture that has begun and that nobody stops gets through if its producer
goes on. -/
theorem OnScript.gets_through (h : l.OnScript feeding s script) (nobody : l.Unattended)
    (begun : l.session.producer.present = true) :
    ∃ l', Relation.ReflTransGen Goes l l' ∧ l'.Through feeding script := by
  have already (on : (∃ clean, l.session.producer = .ended clean) ∨
      ∃ stream number, l.session.producer = .active .close stream number) :
      l.Through feeding script := by
    unfold Through
    rcases on with ⟨_, on⟩ | ⟨_, _, on⟩ <;> rw [on] <;> exact .inl nobody
  cases on : l.session.producer with
  | absent =>
    rw [on] at begun
    cases begun
  | ended clean => exact ⟨l, .refl, already (.inl ⟨clean, on⟩)⟩
  | active task stream number =>
    cases task with
    | poll => exact h.through_of_poll nobody on
    | read => exact h.through_of_read nobody on
    | ingest data =>
      obtain ⟨m, went, polls, _⟩ := h.finish on
      obtain ⟨held, still⟩ := h.goes went
      obtain ⟨l', more, through⟩ := held.through_of_poll (still nobody) polls
      exact ⟨l', went.trans more, through⟩
    | fail e => exact h.through_of_fail nobody on
    | halt => exact h.through_of_halt nobody on
    | close => exact ⟨l, .refl, already (.inr ⟨stream, number, on⟩)⟩

/-- What a capture has come to: its queue is that of the frames before the failure, it is stopped by
the failure, and a stop tells whether there was one. -/
structure Outcome (s : Session σ τ) (script : List FeedItem) (l : LiveSession σ τ) : Prop where
  queue : l.session.queue = (s.takeFrames (FeedItem.frames script)).queue
  phase : l.Unattended →
    l.session.phase = if script.any FeedItem.isFailure then .stopped else .capturing
  stopped : ∀ result, .stopped result ∈ l.calls → l.session.phase = .stopped
  answers : ∀ result, l.calls.filterMap Call.answer? = [result] →
    if script.any FeedItem.isFailure then ∃ text, result = .error (.sourceFailure text)
    else result = .ok ()

-- A failure is kept only after something has failed.
theorem Progress.failed_of_kept {frames : List Bytes} {failed : Bool} {failures : List String}
    (h : l.Progress feeding s script frames failed failures) (kept : l.session.failure ≠ none) :
    failed = true := by
  rw [h.failed_iff]
  intro none
  have owing := h.owing
  rw [none] at owing
  exact kept (Option.or_eq_none_iff.mp owing.due_eq_none).1

theorem Through.read (h : l.Through feeding script) (held : l.OnScript feeding s script) :
    feeding.left l.world = FeedItem.unread script := by
  obtain ⟨frames, failed, failures, progress⟩ := held.progress
  have read := progress.read
  have stage := progress.stage
  unfold Stage at stage
  unfold Through at h
  have of_kept (kept : l.session.failure ≠ none) : feeding.left l.world = FeedItem.unread script := by
    rw [progress.failed_of_kept kept] at read
    exact read.unread_of_failed
  cases on : l.session.producer with
  | absent =>
    rw [on] at h
    exact h.2
  | ended clean =>
    rw [on] at h
    rcases h with nobody | all
    · have course := (held.course nobody).course
      unfold Course at course
      rw [on] at course
      exact of_kept course.2.1
    · exact all
  | active task stream number =>
    rw [on] at h stage
    cases task with
    | poll | read =>
      rw [(stage.2 rfl).1, h] at read
      rw [read.unread_of_nil, h]
    | close =>
      rcases h with nobody | all
      · have course := (held.course nobody).course
        unfold Course at course
        rw [on] at course
        exact of_kept course.2.2
      · exact all
    | ingest | fail | halt => exact h.elim

theorem OnScript.outcome (h : l.OnScript feeding s script) (through : l.Through feeding script) :
    l.Outcome s script := by
  obtain ⟨frames, failed, failures, progress⟩ := h.progress
  obtain ⟨rfl, rfl⟩ := progress.read.through (through.read h)
  have stage := progress.stage
  unfold Stage at stage
  unfold Through at through
  constructor
  case queue =>
    cases on : l.session.producer with
    | absent | ended =>
      rw [on] at stage
      exact stage.queue
    | active task stream number =>
      rw [on] at stage through
      cases task with
      | poll | read | close => exact stage.1.queue
      | ingest | fail | halt => exact through.elim
  case phase =>
    intro nobody
    have course := (h.course nobody).course
    unfold Course at course
    cases on : l.session.producer with
    | absent =>
      rw [on] at course through
      exact absurd course through.1
    | ended clean =>
      rw [on] at course
      rw [progress.failed_of_kept course.2.1, if_pos rfl]
      exact course.1
    | active task stream number =>
      rw [on] at course stage through
      cases task with
      | poll | read =>
        rw [(stage.2 rfl).1]
        exact course.2
      | close =>
        rw [progress.failed_of_kept course.2.2, if_pos rfl]
        exact course.2.1
      | ingest | fail | halt => exact through.elim
  case stopped =>
    intro result returned
    exact (h.lawful.ended _ returned rfl).phase
  case answers =>
    intro result only
    have owing := progress.owing
    cases failures with
    | nil =>
      have intact : script.any FeedItem.isFailure = false := by
        simpa using progress.failed_iff.not.mpr (by simp)
      rw [intact]
      exact owing.answers_ok result (by simp [only])
    | cons first rest =>
      obtain ⟨n, answers⟩ := owing.answers_first h.lawful (by simp [only])
      rw [only] at answers
      rw [progress.failed_iff.mpr (List.cons_ne_nil _ _), if_pos rfl]
      exact ⟨first, (List.cons.inj (List.singleton_perm.mp answers)).1⟩

/-- A capture from a real host and one from memory, of the same configuration and fed alike, come to
the same end. Each gets through what it was fed if it is not stopped and its producer goes on. Once
both are through, the queues with their residents and all counters are equal; the phases are
equal while nobody has stopped either; and when one stop of each has returned both are stopped,
and both stops tell a failure of the source or both tell none. -/
theorem memory_stands_in {config : Config} {memory : MemoryHost} {hostBefore hostWorld : Host}
    {feedBefore feed : MemoryFeed} {real : Session Host Channel}
    {double : Session MemoryFeed MemoryStream} {script items : List FeedItem}
    {l : LiveSession Host Channel} {m : LiveSession MemoryFeed MemoryStream}
    (made : (Session.create config Datalink.backend hostBefore).value.1 = .ok (.ok real))
    (doubled : (Session.create config memory.backend feedBefore).value.1 = .ok (.ok double))
    (played : Played Datalink.feeding (ofSession real hostWorld) script l)
    (replayed : Played memory.feeding (ofSession double feed) items m)
    (alike : List.Forall₂ FeedItem.Alike script items) :
    (l.Unattended → l.session.producer.present = true →
      ∃ l', Relation.ReflTransGen Goes l l' ∧ l'.Through Datalink.feeding script) ∧
    (m.Unattended → m.session.producer.present = true →
      ∃ m', Relation.ReflTransGen Goes m m' ∧ m'.Through memory.feeding items) ∧
    (l.Through Datalink.feeding script → m.Through memory.feeding items →
      l.session.queue = m.session.queue ∧
      (l.Unattended → m.Unattended → l.session.phase = m.session.phase) ∧
      ∀ result other, l.calls.filterMap Call.answer? = [result] →
        m.calls.filterMap Call.answer? = [other] →
        l.session.phase = .stopped ∧ m.session.phase = .stopped ∧
        (result = .ok () ∧ other = .ok () ∨ ∃ text words,
          result = .error (.sourceFailure text) ∧ other = .error (.sourceFailure words))) := by
  have held := (OnScript.start made hostWorld).of_played played
  have heldToo := (OnScript.start doubled feed).of_played replayed
  refine ⟨held.gets_through, heldToo.gets_through, fun through done => ?_⟩
  have first := held.outcome through
  have second := heldToo.outcome done
  obtain ⟨frames, failure⟩ := FeedItem.frames_of_alike alike
  obtain ⟨_, _, interface, configured⟩ := Session.create_eq_ok made
  obtain ⟨_, _, other, configuredToo⟩ := Session.create_eq_ok doubled
  refine ⟨?_, ?_, ?_⟩
  · rw [first.queue, second.queue, frames]
    apply Session.queue_takeFrames_congr <;> rw [configured, configuredToo]
  · intro nobody nobodyToo
    rw [first.phase nobody, second.phase nobodyToo, failure]
  · intro result other answered answeredToo
    have returned {σ τ : Type} {n : LiveSession σ τ} {r : Except CaptureError Unit}
        (only : n.calls.filterMap Call.answer? = [r]) : .stopped r ∈ n.calls := by
      have member : r ∈ n.calls.filterMap Call.answer? := by simp [only]
      obtain ⟨c, present, answer⟩ := List.mem_filterMap.mp member
      cases c <;> cases answer
      exact present
    refine ⟨first.stopped result (returned answered), second.stopped other (returned answeredToo), ?_⟩
    have told := first.answers result answered
    have toldToo := second.answers other answeredToo
    rw [failure] at told
    cases broken : items.any FeedItem.isFailure with
    | false =>
      rw [broken] at told toldToo
      exact .inl ⟨told, toldToo⟩
    | true =>
      rw [broken] at told toldToo
      obtain ⟨text, told⟩ := told
      obtain ⟨words, toldToo⟩ := toldToo
      exact .inr ⟨text, words, told, toldToo⟩

/-- Two frames, reads that time out or would block around them, and a broken channel; and the same
frames and a failure pushed to memory while the producer waits. -/
theorem memory_stands_in_of_failure :
    let host : Host := { adapters := [{ name := "eth0" }], events := [
      .failure (.ofKind .timedOut), .frame [1, 2, 3], .failure (.ofKind .wouldBlock), .frame [4],
      .failure (.ofKind .brokenPipe), .frame [9]] }
    let script : List FeedItem :=
      [.frame [1, 2, 3], .frame [4], .failure "broken pipe", .frame [9]]
    let items : List FeedItem := [.frame [1, 2, 3], .frame [4], .failure "gone", .frame [9]]
    ∃ real double l m, (Session.create {
        capture := { interface := some (.name "eth0"), snaplen := 2 } } Datalink.backend host).value.1 =
          .ok (.ok real) ∧
      (Session.create { capture := { interface := some (.name "eth0"), snaplen := 2 } }
        (MemoryHost.ofNames ["eth0"]).backend {}).value.1 = .ok (.ok double) ∧
      Played Datalink.feeding (ofSession real host) script l ∧
      Played (MemoryHost.feeding (.ofNames ["eth0"])) (ofSession double {}) items m ∧
      l.Through Datalink.feeding script ∧ m.Through (MemoryHost.feeding (.ofNames ["eth0"])) items ∧
      l.session.queue.queue.packets =
        [{ sequence := 0, data := [1, 2] }, { sequence := 1, data := [4] }] ∧
      l.session.queue = m.session.queue ∧ m.session.phase = .stopped ∧
      ∃ text words, l.calls.filterMap Call.answer? = [.error (.sourceFailure text)] ∧
        m.calls.filterMap Call.answer? = [.error (.sourceFailure words)] := by
  intro host script items
  obtain ⟨real, made⟩ : ∃ real, (Session.create {
      capture := { interface := some (.name "eth0"), snaplen := 2 } } Datalink.backend host).value.1 =
        .ok (.ok real) := ⟨_, rfl⟩
  obtain ⟨double, doubled⟩ : ∃ double, (Session.create {
      capture := { interface := some (.name "eth0"), snaplen := 2 } }
      (MemoryHost.ofNames ["eth0"]).backend {}).value.1 = .ok (.ok double) := ⟨_, rfl⟩
  let opening {σ : Type} : List (LiveAction σ) := [.start] ++ List.replicate 6 (.call 0)
  let work {σ : Type} (n : Nat) : List (LiveAction σ) := List.replicate n .produce
  let closing {σ : Type} : List (LiveAction σ) := [.stop] ++ List.replicate 6 (.call 1)
  obtain ⟨l, ran, now⟩ : ∃ l, (ofSession real host).run (opening ++ work 33 ++ closing) = some l ∧
      (l.session.producer.present || l.closed.isEmpty, l.world.events,
        l.calls.filterMap Call.answer?) = (false, [.frame [9]],
          [.error (.sourceFailure "Capture error: eth0: broken pipe")]) := by
    rw [← Option.map_eq_some_iff]
    cases made
    decide +kernel
  obtain ⟨n, began, _⟩ : ∃ n, (ofSession double {}).run (opening ++ work 2) = some n ∧
      n.world.items = [] := by
    rw [← Option.map_eq_some_iff]
    cases doubled
    decide +kernel
  obtain ⟨m, went, later⟩ : ∃ m, { n with world := n.world.push items }.run
      (work 29 ++ closing) = some m ∧
      (m.session.producer.present || m.closed.isEmpty || m.world.items != [.frame [9]],
        m.calls.filterMap Call.answer?, m.session.queue.queue.packets) = (false,
          [.error (.sourceFailure "gone")],
          [{ sequence := 0, data := [1, 2] }, { sequence := 1, data := [4] }]) := by
    rw [← Option.map_eq_some_iff]
    cases doubled
    cases began
    decide +kernel
  have played : Played Datalink.feeding (ofSession real host) script l :=
    Played.run .start rfl ran
  have fed : Played (MemoryHost.feeding (.ofNames ["eth0"])) (ofSession double {}) items m :=
    Played.run (.feed (Played.run .start rfl began) rfl) rfl went
  simp only [Prod.mk.injEq, Bool.or_eq_false_iff, bne_eq_false_iff_eq] at now later
  obtain ⟨⟨absent, closed⟩, events, told⟩ := now
  obtain ⟨⟨⟨gone, shut⟩, left⟩, answered, packets⟩ := later
  have through : l.Through Datalink.feeding script := by
    unfold Through
    rw [Producer.eq_absent absent]
    refine ⟨by simpa using closed, ?_⟩
    rw [show Datalink.feeding.left l.world = l.world.events.filterMap ChannelEvent.item? from rfl,
      events]
    rfl
  have done : m.Through (MemoryHost.feeding (.ofNames ["eth0"])) items := by
    unfold Through
    rw [Producer.eq_absent gone]
    exact ⟨by simpa using shut, left⟩
  have alike : List.Forall₂ FeedItem.Alike script items := by
    simp [script, items, FeedItem.Alike]
  obtain ⟨_, _, same⟩ := memory_stands_in made doubled played fed alike
  obtain ⟨queue, _, ended⟩ := same through done
  obtain ⟨_, stopped, _⟩ := ended _ _ told answered
  exact ⟨real, double, l, m, made, doubled, played, fed, through, done, by rw [queue, packets], queue,
    stopped, _, _, told, answered⟩

end LiveSession
end CaptureQueue
