import CaptureQueue.Proofs.Session.Closing
import CaptureQueue.Proofs.Session.Feeding
import Mathlib.Data.List.Induction

/-! A capture whose backend is fed, whatever that is. However the threads run, what was read of the feed
is a number of frames, and then perhaps a failure; the queue is that of these frames taken in one
after the other, and nothing else has failed. -/

set_option autoImplicit false
namespace CaptureQueue

variable {σ τ σ' τ' : Type}

/-! ## Frames taken in -/

namespace Session

/-- Takes frames in one after the other, as configured: cut to the kept length and judged by the
filters that the session began with. -/
def takeFrames (s : Session σ τ) (frames : List Bytes) : Session σ τ :=
  s.takeInAll (frames.map fun data => ⟨data.take s.options.snaplen, s.filters, []⟩)

theorem queue_takeFrames_concat (s : Session σ τ) (frames : List Bytes) (data : Bytes) :
    (s.takeFrames (frames ++ [data])).queue =
      ({ s.takeFrames frames with filters := s.filters }.ingest frames.length
        (data.take s.options.snaplen)).value.1.queue := by
  rw [takeFrames, List.map_append, List.map_singleton, takeInAll_concat, takeIn_eq, List.length_map]
  rfl

theorem queue_takeFrames_congr {s : Session σ τ} {s' : Session σ' τ'} (queue : s.queue = s'.queue)
    (filters : s.filters = s'.filters) (options : s.options = s'.options) (frames : List Bytes) :
    (s.takeFrames frames).queue = (s'.takeFrames frames).queue := by
  induction frames using List.reverseRecOn with
  | nil => exact queue
  | append_singleton frames data ih =>
    rw [queue_takeFrames_concat, queue_takeFrames_concat, queue_ingest, queue_ingest, ih, filters,
      options]

end Session

namespace Ingest

theorem next_unique : Relator.RightUnique Next :=
  fun _ _ _ first second => Option.some.inj (first.symm.trans second)

theorem eq_of_done {q : SharedQueue} {result : Except Fault Unit} {a : SharedQueue × Ingest}
    (more : Relation.ReflTransGen Next (q, .done result) a) : a = (q, .done result) := by
  rcases Relation.ReflTransGen.cases_head more with same | ⟨_, next, _⟩
  · exact same.symm
  · cases next

theorem rest_of_done {start a : SharedQueue × Ingest} {q : SharedQueue} {result : Except Fault Unit}
    (work : Relation.ReflTransGen Next start a)
    (done : Relation.ReflTransGen Next start (q, .done result)) :
    Relation.ReflTransGen Next a (q, .done result) := by
  rcases Relation.ReflTransGen.total_of_right_unique next_unique work done with rest | more
  · exact rest
  · rw [eq_of_done more]

end Ingest

/-! ## What was read of a script -/

namespace FeedItem

/-- What has been read of a script, and what is left: frames, and then perhaps a failure. -/
inductive ReadOff : List FeedItem → List Bytes → Bool → List FeedItem → Prop
  | frames (fs : List Bytes) (left : List FeedItem) : ReadOff (fs.map .frame ++ left) fs false left
  | failure (fs : List Bytes) (reason : String) (left : List FeedItem) :
    ReadOff (fs.map .frame ++ .failure reason :: left) fs true left

namespace ReadOff

variable {script left : List FeedItem} {fs : List Bytes} {failed : Bool}

theorem feed (h : ReadOff script fs failed left) (items : List FeedItem) :
    ReadOff (script ++ items) fs failed (left ++ items) := by
  cases h with
  | frames =>
    rw [List.append_assoc]
    exact .frames fs (left ++ items)
  | failure _ reason =>
    rw [List.append_assoc]
    exact .failure fs reason (left ++ items)

theorem frame {data : Bytes} (h : ReadOff script fs false (.frame data :: left)) :
    ReadOff script (fs ++ [data]) false left := by
  cases h
  have after := ReadOff.frames (fs ++ [data]) left
  simpa using after

theorem fail {reason : String} (h : ReadOff script fs false (.failure reason :: left)) :
    ReadOff script fs true left := by
  cases h
  exact .failure fs reason left

theorem unread_of_failed (h : ReadOff script fs true left) : left = unread script := by
  cases h with
  | failure _ reason => exact (of_failure fs reason left).2.1.symm

theorem unread_of_nil (h : ReadOff script fs false []) : unread script = [] := by
  cases h
  rw [List.append_nil]
  exact (of_frames fs).2.1

/-- A script is read through when nothing is left but what comes after its failure. -/
theorem through (h : ReadOff script fs failed left) (all : left = unread script) :
    fs = FeedItem.frames script ∧ failed = script.any isFailure := by
  cases h with
  | frames =>
    rw [unread_frames] at all
    have nothing := eq_nil_of_unread all.symm
    subst nothing
    obtain ⟨frames, _, none⟩ := of_frames fs
    rw [List.append_nil, frames, none]
    exact ⟨rfl, rfl⟩
  | failure _ reason =>
    obtain ⟨frames, _, some⟩ := of_failure fs reason left
    rw [frames, some]
    exact ⟨rfl, rfl⟩

end ReadOff
end FeedItem

/-! ## Captures that are fed -/

def LiveAction.isQuiet : LiveAction σ → Bool
  | .produce | .start | .stop | .call _ => true
  | _ => false

/-- Calls leave the feed as it is, and a stream that a start gets is open as the session asks. -/
theorem Call.step_fed {b : Backend σ τ} {l l' : LiveSession σ τ} {c c' : Call τ} (feeding : b.Feeding)
    (backend : l.session.backend = b) (stepped : c.step l = some (l', c')) :
    feeding.left l'.world = feeding.left l.world ∧
      ∀ stream ∈ c'.streams, feeding.Open l.session.options stream := by
  subst backend
  cases c with
  | startOpen =>
    have left := feeding.left_openOn l.session.interface l.session.options l.world
    have opened := feeding.open_openOn l.session.interface l.session.options l.world
    simp only [step] at stepped
    split at stepped
    case h_1 e world outcome =>
      cases stepped
      rw [outcome] at left
      exact ⟨left, by simp [streams]⟩
    case h_2 stream world outcome =>
      cases stepped
      rw [outcome] at left opened
      exact ⟨left, by simpa [streams] using opened⟩
  | _ => cases called_of_step stepped <;> exact ⟨rfl, by simp [streams]⟩

namespace LiveSession

variable {b : Backend σ τ} {feeding : b.Feeding} {s : Session σ τ} {script : List FeedItem}
  {l l' : LiveSession σ τ}

/-- A capture that nobody takes packets from or changes, while its backend may be fed at any time,
with all that the backend was fed. -/
inductive Played (feeding : b.Feeding) (first : LiveSession σ τ) :
    List FeedItem → LiveSession σ τ → Prop
  | start : Played feeding first (feeding.left first.world) first
  | step {script : List FeedItem} {l l' : LiveSession σ τ} {action : LiveAction σ}
      (played : Played feeding first script l) (quiet : action.isQuiet = true)
      (stepped : l.step action = some l') : Played feeding first script l'
  | feed {script items : List FeedItem} {l : LiveSession σ τ} {world : σ}
      (played : Played feeding first script l)
      (grown : feeding.left world = feeding.left l.world ++ items) :
      Played feeding first (script ++ items) { l with world := world }

theorem Played.run {first : LiveSession σ τ} {actions : List (LiveAction σ)}
    (h : Played feeding first script l) (quiet : actions.all LiveAction.isQuiet = true)
    (ran : l.run actions = some l') : Played feeding first script l' := by
  induction actions generalizing l with
  | nil =>
    cases ran
    exact h
  | cons action rest ih =>
    simp only [LiveSession.run, List.foldlM_cons, bind, Option.bind_eq_some_iff] at ran
    obtain ⟨next, stepped, ran⟩ := ran
    rw [List.all_cons, Bool.and_eq_true] at quiet
    exact ih (h.step quiet.1 stepped) quiet.2 ran

/-- Nobody is at the queue, which is as the frames leave it. -/
structure Settled (s : Session σ τ) (frames : List Bytes) (l : LiveSession σ τ) : Prop where
  free : l.queueHeld = false
  queue : l.session.queue = (s.takeFrames frames).queue

/-- The work on a packet has begun with the queue as the frames before it leave it. -/
def Working (s : Session σ τ) (frames : List Bytes) (p : Packet) (l : LiveSession σ τ) : Prop :=
  ∃ ledger, Relation.ReflTransGen Ingest.Next
    ({ filters := s.filters, queue := (s.takeFrames frames).queue, ledger := ledger }, .capture p)
    (l.shared, l.ingest.getD (.capture p))

def Stage (s : Session σ τ) (frames : List Bytes) (failed : Bool) (l : LiveSession σ τ) : Prop :=
  match l.session.producer with
  | .active (.ingest data) _ number => failed = false ∧ ∃ earlier last, frames = earlier ++ [last] ∧
    data = last.take s.options.snaplen ∧ number = earlier.length ∧
    l.Working s earlier { sequence := number, data := data }
  | .active task _ number => l.Settled s frames ∧
    (task.captures = true → failed = false ∧ number = frames.length)
  | _ => l.Settled s frames

theorem Settled.work {frames : List Bytes} {last : Bytes} {result : Except Fault Unit}
    (h : l.Working s frames
      { sequence := frames.length, data := last.take s.options.snaplen })
    (through : l.ingest = some (.done result)) : l.Settled s (frames ++ [last]) := by
  obtain ⟨ledger, work⟩ := h
  rw [through] at work
  obtain ⟨shared, alone, free, after⟩ := Session.ingest_alone
    { s.takeFrames frames with filters := s.filters } ledger frames.length
    (last.take s.options.snaplen)
  have same : l.shared = shared :=
    (Prod.mk.inj (Ingest.eq_of_done (Ingest.rest_of_done work alone))).1.symm
  refine ⟨(congrArg SharedQueue.held same).trans free, ?_⟩
  rw [Session.queue_takeFrames_concat, after]
  exact congrArg SharedQueue.queue same

theorem Stage.congr {frames : List Bytes} {failed : Bool} (h : l.Stage s frames failed)
    (shared : l'.shared = l.shared) (producer : l'.session.producer = l.session.producer)
    (ingest : l'.ingest = l.ingest) : l'.Stage s frames failed := by
  have settled : l.Settled s frames → l'.Settled s frames := fun h =>
    ⟨(congrArg SharedQueue.held shared).trans h.free, (congrArg SharedQueue.queue shared).trans h.queue⟩
  unfold Stage at h ⊢
  rw [producer]
  split at h
  · simpa only [Working, shared, ingest] using h
  · exact ⟨settled h.1, h.2⟩
  · exact settled h

/-- How far a capture has come with a script: what was read of it has gone into the queue or is in
work, and all that has failed is its failure. -/
structure Progress (feeding : b.Feeding) (s : Session σ τ) (script : List FeedItem)
    (l : LiveSession σ τ) (frames : List Bytes) (failed : Bool) (failures : List String) : Prop where
  read : FeedItem.ReadOff script frames failed (feeding.left l.world)
  owing : Owing l failures l.calls
  failed_iff : failed = true ↔ failures ≠ []
  stage : l.Stage s frames failed
  early : l.spawnings = 0 → frames = []

structure OnScript (feeding : b.Feeding) (s : Session σ τ) (script : List FeedItem)
    (l : LiveSession σ τ) : Prop where
  lawful : l.Lawful
  unbroken : l.Unbroken
  course : l.Unattended → l.OnCourse
  backend : l.session.backend = b
  options : l.session.options = s.options
  filters : l.session.filters = s.filters
  handed : ∀ c ∈ l.calls, ∀ stream ∈ c.streams, feeding.Open s.options stream
  reads : ∀ stream ∈ l.session.producer.streams, feeding.Open s.options stream
  progress : ∃ frames failed failures, l.Progress feeding s script frames failed failures

theorem Produced.keeps (produced : l.Produced l') :
    l'.session.filters = l.session.filters ∧
      ∀ stream ∈ l'.session.producer.streams, stream ∈ l.session.producer.streams := by
  cases produced with
  | turn on | succeed on | broke on =>
    refine ⟨rfl, fun stream member => ?_⟩
    rw [on]
    exact member
  | close => exact ⟨rfl, fun stream member => by cases member⟩
  | work on moved => exact ⟨(Ingest.step_guards moved).1, fun _ member => member⟩

namespace Progress

variable {frames : List Bytes} {failed : Bool} {failures : List String}

theorem produce (h : l.Progress feeding s script frames failed failures)
    (held : l.OnScript feeding s script) (stepped : l.produce = some l') :
    ∃ frames failed failures, l'.Progress feeding s script frames failed failures := by
  have owing := h.owing.produce held.lawful stepped
  have early : l'.spawnings = 0 → ∀ frames : List Bytes, frames = [] := by
    intro none
    have same : l'.spawnings = l.spawnings := by cases produced_of_produce stepped <;> rfl
    refine absurd (same.symm.trans none) (held.lawful.orderly.spawned fun absent => ?_)
    simp [LiveSession.produce, absent] at stepped
  have stage := h.stage
  have read := h.read
  have backend := held.backend
  subst backend
  unfold LiveSession.produce at stepped
  unfold Stage at stage
  cases on : l.session.producer with
  | absent | ended => simp [on] at stepped
  | active task stream number =>
    rw [on] at stepped stage
    have opened : feeding.Open s.options stream := held.reads stream (by simp [on, Producer.streams])
    -- what a step does that meets no failure and reads nothing
    have quiet (nothing : l.failing? = none)
        (left : feeding.left l'.world = feeding.left l.world) (stage : l'.Stage s frames failed) :
        ∃ frames failed failures, l'.Progress feeding s script frames failed failures := by
      rw [nothing, Option.toList_none, List.append_nil] at owing
      exact ⟨frames, failed, failures, left ▸ read, owing, h.failed_iff, stage, fun none => early none _⟩
    cases task with
    | poll =>
      obtain ⟨settled, here⟩ := stage
      cases stepped
      refine quiet (by simp only [failing?, on]) (by rw [errand_poll on]) ?_
      rw [errand_poll on]
      split <;> exact ⟨⟨settled.free, settled.queue⟩, fun _ => here rfl⟩
    | read =>
      obtain ⟨settled, here⟩ := stage
      obtain ⟨rfl, rfl⟩ := here rfl
      have empty : l.ingest = none := by
        by_contra inside
        obtain ⟨data, _, _, busy⟩ := held.lawful.orderly.inside inside
        cases on.symm.trans busy
      have delivers := feeding.delivers s.options stream l.world opened
      cases stepped
      rw [errand_read on] at owing early ⊢
      simp only [failing?, on] at owing
      generalize (l.session.backend.read stream l.world).value = outcome at delivers owing early ⊢
      obtain ⟨reading, world⟩ := outcome
      generalize feeding.left l.world = before at delivers read
      generalize left : feeding.left world = after at delivers
      cases delivers with
      | idle =>
        rw [Option.toList_none, List.append_nil] at owing
        refine ⟨frames, false, failures, left ▸ read, owing, h.failed_iff, ?_, fun none => early none _⟩
        exact ⟨⟨settled.free, settled.queue⟩, fun _ => ⟨rfl, rfl⟩⟩
      | frame data =>
        rw [Option.toList_none, List.append_nil] at owing
        refine ⟨frames ++ [data], false, failures, left ▸ read.frame, owing, h.failed_iff, ?_,
          fun none => early none _⟩
        refine ⟨rfl, frames, data, rfl, rfl, rfl, l.ledger, ?_⟩
        simp only [shared, empty, settled.free, settled.queue, held.filters]
        exact .refl
      | failure reason text =>
        refine ⟨frames, true, _, left ▸ read.fail, owing, by simp, ?_, fun none => early none _⟩
        exact ⟨⟨settled.free, settled.queue⟩, fun captures : false = true => by cases captures⟩
    | ingest data =>
      obtain ⟨intact, earlier, last, rfl, rfl, rfl, work⟩ := stage
      have sound : l.failing? = none := by
        simp only [failing?, on, held.unbroken.breaks, Option.map_none]
      simp only at stepped
      split at stepped
      case h_1 stage through =>
        cases stepped
        refine quiet sound rfl ⟨?_, fun _ => ⟨intact, by simp⟩⟩
        have settled := Settled.work work (through_of_getD through)
        exact ⟨settled.free, settled.queue⟩
      case h_2 stage fault through =>
        have met := held.unbroken.work _ (through_of_getD through)
        cases met
      case h_3 =>
        simp only [bind, Option.bind_eq_some_iff] at stepped
        obtain ⟨⟨q, i⟩, moved, same⟩ := stepped
        cases same
        obtain ⟨ledger, work⟩ := work
        refine quiet sound rfl ?_
        simp only [Stage, withShared, on]
        exact ⟨intact, earlier, last, rfl, rfl, rfl, ledger, work.tail moved⟩
    | fail e =>
      cases stepped
      refine quiet (by simp only [failing?, on]) (by rw [errand_fail on]) ?_
      rw [errand_fail on]
      exact ⟨⟨stage.1.free, stage.1.queue⟩, by simp [ProducerTask.captures]⟩
    | halt =>
      cases stepped
      refine quiet (by simp only [failing?, on]) (by rw [errand_halt on]) ?_
      rw [errand_halt on]
      exact ⟨⟨stage.1.free, stage.1.queue⟩, by simp [ProducerTask.captures]⟩
    | close =>
      cases stepped
      refine quiet ?_ ?_ ?_
      · simp only [failing?, on, feeding.close_ok]
      · rw [errand_end on]
        exact feeding.left_close stream l.world
      · rw [errand_end on]
        exact ⟨stage.1.free, stage.1.queue⟩

theorem congr (h : l.Progress feeding s script frames failed failures) (shared : l'.shared = l.shared)
    (left : feeding.left l'.world = feeding.left l.world)
    (producer : l'.session.producer = l.session.producer) (ingest : l'.ingest = l.ingest)
    (spawnings : l'.spawnings = l.spawnings) (owing : Owing l' failures l'.calls) :
    l'.Progress feeding s script frames failed failures :=
  ⟨left ▸ h.read, owing, h.failed_iff, h.stage.congr shared producer ingest,
    fun none => h.early (spawnings.symm.trans none)⟩

theorem call {c c' : Call τ} {calls : List (Call τ)}
    (h : l.Progress feeding s script frames failed failures) (held : l.OnScript feeding s script)
    (alone : c.streams ≠ [] → l.spawnings = 0 ∧ l.session.producer = .absent)
    (moved : c.step l = some (l', c')) (owing : Owing { l' with calls := calls } failures calls) :
    { l' with calls := calls }.Progress feeding s script frames failed failures := by
  obtain ⟨shared, ingest, _⟩ := Call.step_frame moved
  have left := (Call.step_fed feeding held.backend moved).1
  have settled : l.Settled s frames → { l' with calls := calls }.Settled s frames := fun h =>
    ⟨(congrArg SharedQueue.held shared).trans h.free, (congrArg SharedQueue.queue shared).trans h.queue⟩
  have stage := h.stage
  rcases Call.step_producer moved with ⟨producer, spawnings⟩ | ⟨stream, opened, producer, spawnings⟩ |
    ⟨clean, ended, producer, spawnings⟩
  · exact h.congr shared left producer ingest spawnings owing
  · obtain ⟨unspawned, absent⟩ := alone (by simp [opened])
    have nothing := h.early unspawned
    subst nothing
    have intact : failed = false := by
      by_contra broken
      exact h.failed_iff.mp (Bool.not_eq_false _ ▸ broken) (h.owing.early unspawned)
    unfold Stage at stage
    rw [absent] at stage
    refine ⟨left ▸ h.read, owing, h.failed_iff, ?_, fun _ => rfl⟩
    unfold Stage
    dsimp only
    rw [producer]
    exact ⟨settled stage, fun _ => ⟨intact, rfl⟩⟩
  · unfold Stage at stage
    rw [ended] at stage
    refine ⟨left ▸ h.read, owing, h.failed_iff, ?_, fun none => h.early (spawnings.symm.trans none)⟩
    unfold Stage
    dsimp only
    rw [producer]
    exact settled stage

end Progress

namespace OnScript

theorem start {before : σ} {config : Config}
    (made : (Session.create config b before).value.1 = .ok (.ok s)) (world : σ) :
    (ofSession s world).OnScript feeding s (feeding.left world) := by
  have fresh := Session.create_fresh made
  have unbroken := Session.unbroken made world
  obtain ⟨_, _, interface, same⟩ := Session.create_eq_ok made
  have kept : s.failure = none := by rw [same]
  have absent : (ofSession s world).session.producer = .absent := fresh.producer
  refine ⟨.start fresh world, unbroken, fun _ => .start fresh world, ?_, rfl, rfl, ?_, ?_,
    [], false, [], .frames [] _, .start fresh kept world, by simp, ?_, fun _ => rfl⟩
  · rw [show (ofSession s world).session = s from rfl, same]
  · intro c member
    cases member
  · rw [absent]
    intro stream member
    cases member
  · unfold Stage
    rw [absent]
    exact ⟨rfl, rfl⟩

theorem feed {items : List FeedItem} {world : σ} (h : l.OnScript feeding s script)
    (grown : feeding.left world = feeding.left l.world ++ items) :
    { l with world := world }.OnScript feeding s (script ++ items) := by
  have stepped : l.step (.outside world) = some { l with world := world } := rfl
  obtain ⟨frames, failed, failures, progress⟩ := h.progress
  have owing := progress.owing.step h.lawful stepped
  simp only [failuresAt, List.append_nil] at owing
  refine ⟨h.lawful.acted .outside, h.unbroken.of_eq rfl rfl rfl,
    fun nobody => (h.course nobody).step h.lawful nobody stepped, h.backend, h.options, h.filters,
    h.handed, h.reads, frames, failed, failures, ?_, owing, progress.failed_iff,
    progress.stage.congr rfl rfl rfl, progress.early⟩
  rw [grown]
  exact progress.read.feed items

theorem step {action : LiveAction σ} (h : l.OnScript feeding s script) (quiet : action.isQuiet = true)
    (stepped : l.step action = some l') : l'.OnScript feeding s script := by
  have lawful := h.lawful.acted (acted_of_step stepped)
  have sound : action.Sound := by cases action <;> trivial
  have unbroken := h.unbroken.step sound stepped
  have course : l'.Unattended → l'.OnCourse := fun nobody =>
    (h.course (nobody.before stepped)).step h.lawful nobody stepped
  obtain ⟨frames, failed, failures, progress⟩ := h.progress
  have owing := progress.owing.step h.lawful stepped
  cases action with
  | produce =>
    obtain ⟨backend, options⟩ := (produced_of_produce stepped).settings
    obtain ⟨filters, reads⟩ := (produced_of_produce stepped).keeps
    refine ⟨lawful, unbroken, course, backend.trans h.backend, options.trans h.options,
      filters.trans h.filters, ?_, fun stream member => h.reads stream (reads stream member),
      progress.produce h stepped⟩
    rw [(produced_of_produce stepped).frame.1]
    exact h.handed
  | start | stop =>
    simp only [failuresAt, List.append_nil] at owing
    cases stepped
    refine ⟨lawful, unbroken, course, h.backend, h.options, h.filters, ?_, h.reads, frames, failed,
      failures, progress.congr rfl rfl rfl rfl rfl owing⟩
    intro c member
    rcases List.mem_append.mp member with old | new
    · exact h.handed c old
    · rw [List.mem_singleton.mp new]
      intro stream none
      cases none
  | call index =>
    simp only [failuresAt, List.append_nil] at owing
    obtain ⟨c, c', others, after, calls, moved, rfl, was, now⟩ := exists_call stepped
    have present : c ∈ l.calls := was.mem_iff.mpr List.mem_cons_self
    obtain ⟨backend, options⟩ := Call.step_settings moved
    have filters : after.session.filters = l.session.filters :=
      congrArg SharedQueue.filters (Call.step_frame moved).1
    refine ⟨lawful, unbroken, course, backend.trans h.backend, options.trans h.options,
      filters.trans h.filters, ?_, ?_, frames, failed, failures,
      progress.call h (h.lawful.orderly.perm was).alone moved owing⟩
    · intro d member
      rcases List.mem_cons.mp (now.mem_iff.mp member) with rfl | other
      · rw [← h.options]
        exact (Call.step_fed feeding h.backend moved).2
      · exact h.handed d (was.mem_iff.mpr (List.mem_cons_of_mem _ other))
    · dsimp only
      rcases Call.step_producer moved with ⟨same, _⟩ | ⟨stream, opened, active, _⟩ | ⟨_, _, absent, _⟩
      · rw [same]
        exact h.reads
      · rw [active, show Producer.streams (.active .poll stream 0) = [stream] from rfl, ← opened]
        exact h.handed c present
      · rw [absent]
        intro stream none
        cases none
  | beginTaking | take | edit | outside => cases quiet

theorem of_played {first : LiveSession σ τ} (begun : first.OnScript feeding s (feeding.left first.world))
    (played : Played feeding first script l) : l.OnScript feeding s script := by
  induction played with
  | start => exact begun
  | step _ quiet stepped ih => exact ih.step quiet stepped
  | feed _ grown ih => exact ih.feed grown

end OnScript

end LiveSession
end CaptureQueue
