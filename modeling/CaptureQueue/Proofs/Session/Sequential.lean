import CaptureQueue.Proofs.Session.Fed

/-! A capture that is fed from memory comes to the same as its frames taken in one after the other.
However pushes, reads and changes of the filters and the strategy fall between the steps of the
producer, counters and residents come out as if each frame had been taken in at once, by the chain
that judged it and under the strategy that it met. -/

set_option autoImplicit false
namespace CaptureQueue

/-! ## What was read of what was pushed -/

namespace FeedItem

def frames : List FeedItem → List Bytes
  | .frame data :: rest => data :: frames rest
  | _ => []

def unread : List FeedItem → List FeedItem
  | .frame _ :: rest => unread rest
  | .failure _ :: rest => rest
  | [] => []

def isFailure : FeedItem → Bool
  | .failure _ => true
  | .frame _ => false

theorem of_frames (fs : List Bytes) :
    frames (fs.map .frame) = fs ∧ unread (fs.map .frame) = [] ∧
      (fs.map FeedItem.frame).any isFailure = false := by
  induction fs with
  | nil => exact ⟨rfl, rfl, rfl⟩
  | cons data rest ih =>
    obtain ⟨before, after, none⟩ := ih
    exact ⟨congrArg (data :: ·) before, after, none⟩

theorem of_failure (fs : List Bytes) (reason : String) (rest : List FeedItem) :
    frames (fs.map .frame ++ .failure reason :: rest) = fs ∧
      unread (fs.map .frame ++ .failure reason :: rest) = rest ∧
      (fs.map FeedItem.frame ++ .failure reason :: rest).any isFailure = true := by
  induction fs with
  | nil => exact ⟨rfl, rfl, rfl⟩
  | cons data fs ih =>
    obtain ⟨before, after, some⟩ := ih
    exact ⟨congrArg (data :: ·) before, after, some⟩

end FeedItem

namespace MemoryHost

theorem items_close (host : MemoryHost) (stream : MemoryStream) (feed : MemoryFeed) :
    (host.backend.close stream feed).value.2.items = feed.items := by
  obtain ⟨options, closed⟩ := stream
  cases closed <;> rfl

theorem openOn_eq (host : MemoryHost) (id : InterfaceId) (options : OpenOptions) (feed : MemoryFeed) :
    (host.backend.openOn id options feed).value.2.items = feed.items ∧
      ∀ stream, (host.backend.openOn id options feed).value.1 = .ok stream →
        stream.options = options := by
  refine ⟨rfl, fun stream opened => ?_⟩
  have result : (host.backend.openOn id options feed).value.1 =
      host.openFailure.elim (.ok { options := options }) fun reason =>
        .error (.sourceFailure reason) := by
    cases failure : host.openFailure <;>
      simp [MemoryHost.backend, openOn, failure, Act.value_bind] <;> rfl
  rw [result] at opened
  cases failure : host.openFailure with
  | some reason =>
    rw [failure] at opened
    cases opened
  | none =>
    rw [failure] at opened
    cases opened
    rfl

end MemoryHost

namespace FedSession

variable {f f' : FedSession} {kept : Nat}

/-- Everything read so far were frames; those in hand have not been noted yet. -/
def Reads (kept : Nat) (f : FedSession) (inHand : List Bytes) : Prop :=
  ∃ fs : List Bytes, f.pushed = fs.map .frame ++ f.live.world.items ∧
    fs.map (·.take kept) = f.arrivals.map Arrival.data ++ inHand

/-- A failure was read after frames that all have been noted. -/
def Failed (kept : Nat) (f : FedSession) : Prop :=
  ∃ (fs : List Bytes) (reason : String),
    f.pushed = fs.map .frame ++ .failure reason :: f.live.world.items ∧
    fs.map (·.take kept) = f.arrivals.map Arrival.data

/-- How far the producer has come with what was pushed. -/
def Progress (kept : Nat) (f : FedSession) : Prop :=
  match f.live.session.producer with
  | .absent => f.Reads kept [] ∧ f.arrivals = []
  | .active task stream _ => stream.options.snaplen = kept ∧
    match task with
    | .poll | .read => f.live.session.phase = .capturing ∧ f.Reads kept []
    | .ingest data => f.live.session.phase = .capturing ∧
      f.Reads kept (if (f.live.ingest.map Ingest.noted).getD false then [] else [data])
    | .fail _ | .halt => f.live.session.phase = .capturing ∧ f.Failed kept
    | .close => f.live.session.phase = .stopped ∧ f.Failed kept
  | .ended _ => f.live.session.phase = .stopped ∧ f.Failed kept

def Ready (kept : Nat) (l : LiveSession MemoryFeed MemoryStream) : Call MemoryStream → Prop
  | .startOpen => l.session.phase = .capturing ∧ l.session.producer = .absent
  | .startFail _ => l.session.producer = .absent
  | .startSpawn stream => l.session.phase = .capturing ∧ l.session.producer = .absent ∧
    stream.options.snaplen = kept
  | _ => True

structure Fed (host : MemoryHost) (kept : Nat) (f : FedSession) : Prop where
  backend : f.live.session.backend = host.backend
  options : f.live.session.options.snaplen = kept
  starts : ∀ c ∈ f.live.calls, c.starts = true
  ready : ∀ c ∈ f.live.calls, Ready kept f.live c
  progress : f.Progress kept

theorem noted_of_step {q : SharedQueue} {i i' : Ingest} {frames : Nat} {data : Bytes}
    (inside : f.live.ingest = some i)
    (carried : ∀ p ∈ i.carried, p = { sequence := frames, data := data })
    (stepped : i.step f.live.shared = some (q, i')) :
    f.observe.arrivals.map Arrival.data ++ (if i'.noted then [] else [data]) =
      f.arrivals.map Arrival.data ++ (if i.noted then [] else [data]) := by
  cases i with
  | judge p =>
    cases carried p List.mem_cons_self
    simp only [Ingest.step] at stepped
    rw [show f.live.shared.filters = f.live.session.filters from rfl] at stepped
    cases judged : f.live.session.filters.firstRejection { sequence := frames, data := data } with
    | error fault =>
      rw [judged] at stepped
      cases stepped
      simp [observe, inside, judged, arrive, Ingest.noted]
    | ok rejection =>
      rw [judged] at stepped
      cases rejection <;> cases stepped <;> simp [observe, inside, judged, arrive, Ingest.noted]
  | decide p =>
    cases carried p List.mem_cons_self
    cases stepped
    simp [observe, inside, arrive, Ingest.noted]
  | enter p =>
    simp only [Ingest.step] at stepped
    split at stepped <;> cases stepped
    simp [observe, inside, Ingest.noted]
  | capture | measure | dismiss | register | settle | release | leave =>
    cases stepped
    simp [observe, inside, Ingest.noted]
  | done => cases stepped

theorem Ready.of_present {l : LiveSession MemoryFeed MemoryStream} {c : Call MemoryStream}
    (h : Ready kept l c) (present : l.session.producer ≠ .absent)
    (l' : LiveSession MemoryFeed MemoryStream) : Ready kept l' c := by
  cases c with
  | startOpen => exact absurd h.2 present
  | startFail => exact absurd h present
  | startSpawn => exact absurd h.2.1 present
  | _ => trivial

theorem Fed.produce {host : MemoryHost} {s : Session MemoryFeed MemoryStream}
    {l : LiveSession MemoryFeed MemoryStream} (h : f.Fed host kept) (folded : f.Folded s)
    (unbroken : f.live.Unbroken) (stepped : f.live.produce = some l) :
    Fed host kept { f.observe with live := l } := by
  have produced := LiveSession.produced_of_produce stepped
  obtain ⟨backend, options⟩ := produced.settings
  have pushed := (observe_frame f).2
  have progress := h.progress
  unfold Progress at progress
  refine ⟨backend.trans h.backend, by rw [options, h.options], ?_, ?_, ?_⟩
  · rw [produced.frame.1]
    exact h.starts
  · rw [produced.frame.1]
    intro c member
    refine (h.ready c member).of_present (fun absent => ?_) l
    simp [LiveSession.produce, absent] at stepped
  · unfold LiveSession.produce at stepped
    cases on : f.live.session.producer with
    | absent | ended => simp [on] at stepped
    | active task stream frames =>
      rw [on] at stepped progress
      obtain ⟨keeps, progress⟩ := progress
      have outside : (∀ data, task ≠ .ingest data) → f.live.ingest = none ∧ f.observe = f := by
        intro other
        refine observe_of_outside folded fun data stream frames now => ?_
        cases on.symm.trans now
        exact other data rfl
      cases task with
      | poll =>
        obtain ⟨capturing, reads⟩ := progress
        obtain ⟨_, same⟩ := outside (by simp)
        cases stepped
        rw [same, LiveSession.errand_poll on, if_pos capturing]
        exact ⟨keeps, capturing, reads⟩
      | read =>
        obtain ⟨capturing, fs, were, same⟩ := progress
        obtain ⟨empty, unseen⟩ := outside (by simp)
        cases stepped
        rw [unseen, LiveSession.errand_read on, h.backend]
        refine ⟨keeps, ?_⟩
        rw [empty]
        rcases items : f.live.world.items with _ | ⟨data | reason, rest⟩
        · have read : (host.backend.read stream f.live.world).value = (.idle, f.live.world) := by
            simp [MemoryHost.backend, MemoryHost.read, MemoryFeed.pop, items, pure]
          rw [read]
          exact ⟨capturing, fs, were, same⟩
        · have read : (host.backend.read stream f.live.world).value =
              (.frame (data.take kept), { f.live.world with items := rest }) := by
            simp [MemoryHost.backend, MemoryHost.read, MemoryFeed.pop, items, pure,
              FeedItem.reading, keeps]
          rw [read]
          refine ⟨capturing, fs ++ [data], ?_, ?_⟩
          · simp [were, items]
          · simpa using same
        · have read : (host.backend.read stream f.live.world).value =
              (.failed (.sourceFailure reason), { f.live.world with items := rest }) := by
            simp [MemoryHost.backend, MemoryHost.read, MemoryFeed.pop, items, pure,
              FeedItem.reading]
          rw [read]
          exact ⟨capturing, fs, reason, by rw [were, items], by simpa using same⟩
      | ingest data =>
        obtain ⟨capturing, fs, were, same⟩ := progress
        cases produced with
        | turn on' outside =>
          cases on.symm.trans on'
          exact absurd rfl (outside data)
        | close on' => cases on.symm.trans on'
        | work on' moved =>
          cases on.symm.trans on'
          dsimp only [LiveSession.withShared]
          rw [on]
          refine ⟨keeps, capturing, fs, pushed.trans were, ?_⟩
          cases inside : f.live.ingest with
          | none =>
            rw [inside] at moved same
            cases moved
            rw [show f.observe = f by rw [observe, inside]]
            exact same
          | some j =>
            rw [inside] at moved same
            obtain ⟨_, _, _, on', _, carried, _⟩ := folded.work j inside
            cases on.symm.trans on'
            exact same.trans (noted_of_step inside carried moved).symm
        | succeed on' through =>
          cases on.symm.trans on'
          rw [show f.observe = f by rw [observe, through]]
          rw [through] at same
          exact ⟨keeps, capturing, fs, were, same⟩
        | broke on' through =>
          have fault := unbroken.work _ through
          cases fault
      | fail e =>
        obtain ⟨capturing, failed⟩ := progress
        obtain ⟨_, same⟩ := outside (by simp)
        cases stepped
        rw [same, LiveSession.errand_fail on]
        exact ⟨keeps, capturing, failed⟩
      | halt =>
        obtain ⟨_, failed⟩ := progress
        obtain ⟨_, same⟩ := outside (by simp)
        cases stepped
        rw [same, LiveSession.errand_halt on]
        exact ⟨keeps, rfl, failed⟩
      | close =>
        obtain ⟨stopped, failed⟩ := progress
        obtain ⟨_, same⟩ := outside (by simp)
        cases stepped
        rw [same, LiveSession.errand_end on]
        obtain ⟨fs, reason, were, same⟩ := failed
        refine ⟨stopped, fs, reason, ?_, same⟩
        rw [h.backend, MemoryHost.items_close]
        exact were

theorem Ready.of_free {l : LiveSession MemoryFeed MemoryStream} {c : Call MemoryStream}
    (free : c.holds = false) : Ready kept l c := by
  cases c <;> trivial

theorem Progress.absent_of_idle (h : f.Progress kept) (idle : f.live.session.phase = .idle) :
    f.live.session.producer = .absent := by
  unfold Progress at h
  cases on : f.live.session.producer with
  | absent => rfl
  | active task stream frames =>
    rw [on, idle] at h
    cases task <;> cases h.2.1
  | ended clean =>
    rw [on, idle] at h
    cases h.1

theorem Progress.of_absent {l : LiveSession MemoryFeed MemoryStream} (h : f.Progress kept)
    (absent : f.live.session.producer = .absent) (still : l.session.producer = .absent)
    (items : l.world.items = f.live.world.items) : Progress kept { f with live := l } := by
  unfold Progress at h ⊢
  rw [absent] at h
  dsimp only
  rw [still]
  obtain ⟨⟨fs, were, same⟩, none⟩ := h
  exact ⟨⟨fs, by rw [items]; exact were, same⟩, none⟩

theorem Fed.call_step {host : MemoryHost} {l : LiveSession MemoryFeed MemoryStream}
    {c c' : Call MemoryStream} (h : f.Fed host kept) (starts : c.starts = true)
    (ready : Ready kept f.live c) (moved : c.step f.live = some (l, c')) :
    c'.starts = true ∧ Ready kept l c' ∧ Progress kept { f with live := l } := by
  have progress := h.progress
  cases c with
  | startLock =>
    simp only [Call.step] at moved
    split at moved <;> cases moved
    exact ⟨rfl, trivial, progress⟩
  | startMove =>
    simp only [Call.step] at moved
    split at moved
    case isTrue idle =>
      cases moved
      have absent := progress.absent_of_idle idle
      exact ⟨rfl, ⟨rfl, absent⟩, progress.of_absent absent absent rfl⟩
    case isFalse =>
      cases moved
      exact ⟨rfl, trivial, progress⟩
  | startOpen =>
    obtain ⟨capturing, absent⟩ := ready
    obtain ⟨items, options⟩ := MemoryHost.openOn_eq host f.live.session.interface
      f.live.session.options f.live.world
    simp only [Call.step, h.backend] at moved
    split at moved
    case h_1 e world opened =>
      cases moved
      rw [opened] at items
      exact ⟨rfl, absent, progress.of_absent absent absent items⟩
    case h_2 stream world opened =>
      cases moved
      rw [opened] at items options
      refine ⟨rfl, ⟨capturing, absent, ?_⟩, progress.of_absent absent absent items⟩
      rw [options stream rfl, h.options]
  | startFail e =>
    cases moved
    exact ⟨rfl, trivial, progress.of_absent ready ready rfl⟩
  | startSpawn stream =>
    obtain ⟨capturing, absent, keeps⟩ := ready
    cases moved
    unfold Progress at progress ⊢
    rw [absent] at progress
    exact ⟨rfl, trivial, keeps, capturing, progress.1⟩
  | startStore | startUnlock =>
    cases moved
    exact ⟨rfl, trivial, progress⟩
  | started => cases moved
  | _ => cases starts

theorem Fed.call {host : MemoryHost} {l : LiveSession MemoryFeed MemoryStream} {index : Nat}
    (h : f.Fed host kept) (lawful : f.live.Lawful) (stepped : f.live.step (.call index) = some l) :
    Fed host kept { f with live := l } := by
  obtain ⟨c, c', others, after, calls, moved, rfl, was, now⟩ := LiveSession.exists_call stepped
  have orderly := lawful.orderly.perm was
  have present : c ∈ f.live.calls := was.mem_iff.mpr List.mem_cons_self
  obtain ⟨starts, ready, progress⟩ := h.call_step (h.starts c present) (h.ready c present) moved
  obtain ⟨backend, options⟩ := Call.step_settings moved
  refine ⟨backend.trans h.backend, by rw [options, h.options], ?_, ?_, progress⟩
  · intro d member
    rcases List.mem_cons.mp (now.mem_iff.mp member) with rfl | other
    · exact starts
    · exact h.starts d (was.mem_iff.mpr (List.mem_cons_of_mem _ other))
  · intro d member
    rcases List.mem_cons.mp (now.mem_iff.mp member) with rfl | other
    · exact ready
    · by_cases holds : c.holds = true
      · exact .of_free ((orderly.locked holds).2 d other)
      · have before := h.ready d (was.mem_iff.mpr (List.mem_cons_of_mem _ other))
        cases Call.called_of_step moved with
        | startLock => exact before
        | stopMark | stopLock | stopReport => cases h.starts _ present
        | _ => exact absurd rfl holds

theorem Fed.edit {host : MemoryHost} {l : LiveSession MemoryFeed MemoryStream} {e : Edit}
    (h : f.Fed host kept) (stepped : f.live.step (.edit e) = some l) :
    Fed host kept { f with live := l, swaps := f.swaps ++ e.swaps } := by
  simp only [LiveSession.step, bind, Option.bind_eq_some_iff] at stepped
  obtain ⟨q, moved, same⟩ := stepped
  cases same
  exact ⟨h.backend, h.options, h.starts, h.ready, h.progress⟩

theorem Fed.push {host : MemoryHost} (h : f.Fed host kept) (items : List FeedItem) :
    Fed host kept { f with
      live := { f.live with world := f.live.world.push items }, pushed := f.pushed ++ items } := by
  have reads {inHand : List Bytes} (was : f.Reads kept inHand) : Reads kept { f with
      live := { f.live with world := f.live.world.push items }, pushed := f.pushed ++ items }
      inHand := by
    obtain ⟨fs, were, same⟩ := was
    exact ⟨fs, by simp [were, MemoryFeed.push], same⟩
  have failed (was : f.Failed kept) : Failed kept { f with
      live := { f.live with world := f.live.world.push items }, pushed := f.pushed ++ items } := by
    obtain ⟨fs, reason, were, same⟩ := was
    exact ⟨fs, reason, by simp [were, MemoryFeed.push], same⟩
  refine ⟨h.backend, h.options, h.starts, h.ready, ?_⟩
  have progress := h.progress
  unfold Progress at progress ⊢
  dsimp only
  cases on : f.live.session.producer with
  | absent =>
    rw [on] at progress
    exact ⟨reads progress.1, progress.2⟩
  | active task stream frames =>
    rw [on] at progress
    obtain ⟨keeps, progress⟩ := progress
    refine ⟨keeps, ?_⟩
    cases task with
    | poll | read | ingest => exact ⟨progress.1, reads progress.2⟩
    | fail | halt | close => exact ⟨progress.1, failed progress.2⟩
  | ended clean =>
    rw [on] at progress
    exact ⟨progress.1, failed progress.2⟩

/-! ## Whole runs -/

structure Holds (host : MemoryHost) (kept : Nat) (s : Session MemoryFeed MemoryStream)
    (f : FedSession) : Prop where
  lawful : f.live.Lawful
  unbroken : f.live.Unbroken
  folded : f.Folded s
  fed : f.Fed host kept

theorem Holds.step {host : MemoryHost} {s : Session MemoryFeed MemoryStream} {action : FeedAction}
    (h : f.Holds host kept s) (sound : action.Sound) (stepped : f.step action = some f') :
    f'.Holds host kept s := by
  obtain ⟨act, soundly, moved⟩ := live_of_step sound stepped
  have lawful := h.lawful.acted (LiveSession.acted_of_step moved)
  have unbroken := h.unbroken.step soundly moved
  suffices rest : f'.Folded s ∧ f'.Fed host kept from ⟨lawful, unbroken, rest.1, rest.2⟩
  cases action with
  | push items =>
    cases stepped
    exact ⟨⟨h.folded.queue, h.folded.metrics, h.folded.work, h.folded.rest, h.folded.fresh⟩,
      h.fed.push items⟩
  | produce =>
    simp only [FedSession.step, bind, Option.bind_eq_some_iff] at stepped
    obtain ⟨l, produced, same⟩ := stepped
    cases same
    have spawned := h.lawful.orderly.spawned fun absent => by
      simp [LiveSession.step, LiveSession.produce, absent] at produced
    exact ⟨h.folded.produce spawned produced, h.fed.produce h.folded h.unbroken produced⟩
  | start =>
    cases stepped
    refine ⟨⟨h.folded.queue, h.folded.metrics, h.folded.work, h.folded.rest, h.folded.fresh⟩,
      h.fed.backend, h.fed.options, ?_, ?_, h.fed.progress⟩
    · intro c member
      rcases List.mem_append.mp member with old | new
      · exact h.fed.starts c old
      · rw [List.mem_singleton.mp new]
        rfl
    · intro c member
      rcases List.mem_append.mp member with old | new
      · exact h.fed.ready c old
      · rw [List.mem_singleton.mp new]
        trivial
  | call index =>
    simp only [FedSession.step, bind, Option.bind_eq_some_iff] at stepped
    obtain ⟨l, called, same⟩ := stepped
    cases same
    exact ⟨h.folded.call h.lawful called, h.fed.call h.lawful called⟩
  | edit e =>
    simp only [FedSession.step, bind, Option.bind_eq_some_iff] at stepped
    obtain ⟨l, edited, same⟩ := stepped
    cases same
    exact ⟨h.folded.edit edited, h.fed.edit edited⟩

theorem Holds.run {host : MemoryHost} {s : Session MemoryFeed MemoryStream}
    {actions : List FeedAction} (h : f.Holds host kept s) (sound : ∀ a ∈ actions, a.Sound)
    (ran : f.run actions = some f') : f'.Holds host kept s := by
  induction actions generalizing f with
  | nil =>
    cases ran
    exact h
  | cons action rest ih =>
    simp only [FedSession.run, List.foldlM_cons, bind, Option.bind_eq_some_iff] at ran
    obtain ⟨next, stepped, ran⟩ := ran
    exact ih (h.step (sound action List.mem_cons_self) stepped)
      (fun a member => sound a (List.mem_cons_of_mem _ member)) ran

theorem Holds.start {config : Config} {host : MemoryHost} {before : MemoryFeed}
    {s : Session MemoryFeed MemoryStream}
    (made : (Session.create config host.backend before).value.1 = .ok (.ok s)) (feed : MemoryFeed) :
    (ofSession s feed).Holds host config.capture.snaplen s := by
  have fresh := Session.create_fresh made
  refine ⟨.start fresh feed, Session.unbroken made feed, .start fresh feed, ?_⟩
  obtain ⟨_, _, _, rfl⟩ := Session.create_eq_ok made
  refine ⟨rfl, rfl, ?_, ?_, ⟨[], rfl, rfl⟩, rfl⟩ <;>
  · intro c member
    cases member

/-- Whether the producer has read everything up to a failure, or everything: then it has nothing to
do but to wait or to end. -/
def caughtUp (f : FedSession) : Bool :=
  match f.live.session.producer with
  | .active .poll _ _ | .active .read _ _ => f.live.world.items.isEmpty
  | .active .close _ _ | .ended _ => true
  | _ => false

theorem Reads.done {inHand : List Bytes} (h : f.Reads kept inHand) (all : f.live.world.items = []) :
    f.arrivals.map Arrival.data ++ inHand = (FeedItem.frames f.pushed).map (·.take kept) ∧
      f.live.world.items = FeedItem.unread f.pushed ∧ f.pushed.any FeedItem.isFailure = false := by
  obtain ⟨fs, were, same⟩ := h
  rw [all, List.append_nil] at were
  obtain ⟨frames, unread, none⟩ := FeedItem.of_frames fs
  rw [were, frames, unread, none]
  exact ⟨same.symm, all, rfl⟩

theorem Failed.done (h : f.Failed kept) :
    f.arrivals.map Arrival.data = (FeedItem.frames f.pushed).map (·.take kept) ∧
      f.live.world.items = FeedItem.unread f.pushed ∧ f.pushed.any FeedItem.isFailure = true := by
  obtain ⟨fs, reason, were, same⟩ := h
  obtain ⟨frames, unread, some⟩ := FeedItem.of_failure fs reason f.live.world.items
  rw [were, frames, unread, some]
  exact ⟨same.symm, rfl, rfl⟩

/-- Once the producer has read everything, or all up to a failure, the counters, the residents and
the phase are those of the frames before the failure, taken in one after the other by the chains
and the strategies that each of them met. What was pushed after the failure is still there, and a
change of the filters or of the strategy touches neither counters nor residents. -/
theorem capture_is_fold {config : Config} {host : MemoryHost} {before feed : MemoryFeed}
    {session : Session MemoryFeed MemoryStream} {actions : List FeedAction}
    (made : (Session.create config host.backend before).value.1 = .ok (.ok session))
    (sound : ∀ action ∈ actions, action.Sound)
    (ran : (ofSession session feed).run actions = some f) (through : f.caughtUp = true) :
    let queue := f.live.session.queue
    let fold := (session.takeInAll f.arrivals).queue
    f.arrivals.map Arrival.data =
      (FeedItem.frames f.pushed).map (·.take config.capture.snaplen) ∧
    queue.metrics = fold.metrics ∧ queue.queue.packets = fold.queue.packets ∧
    f.live.session.phase = (if f.pushed.any FeedItem.isFailure then .stopped else .capturing) ∧
    f.live.world.items = FeedItem.unread f.pushed ∧
    ∀ e l, f.live.step (.edit e) = some l →
      l.session.queue.metrics = queue.metrics ∧
        l.session.queue.queue.packets = queue.queue.packets := by
  have h := (Holds.start made feed).run sound ran
  have folded (outside : ∀ data stream frames,
      f.live.session.producer ≠ .active (.ingest data) stream frames) :
      f.live.session.queue.metrics = (session.takeInAll f.arrivals).queue.metrics ∧
        f.live.session.queue.queue.packets =
          (session.takeInAll f.arrivals).queue.queue.packets := by
    have metrics := h.folded.metrics
    rw [(observe_of_outside h.folded outside).1] at metrics
    refine ⟨metrics, ?_⟩
    rw [h.folded.queue, PacketQueue.packets_withStrategies]
    rfl
  have edits : ∀ e l, f.live.step (.edit e) = some l →
      l.session.queue.metrics = f.live.session.queue.metrics ∧
        l.session.queue.queue.packets = f.live.session.queue.queue.packets := by
    intro e l stepped
    simp only [LiveSession.step, bind, Option.bind_eq_some_iff] at stepped
    obtain ⟨q, moved, same⟩ := stepped
    cases same
    exact Edit.step_contents moved
  have progress := h.fed.progress
  unfold caughtUp at through
  unfold Progress at progress
  cases on : f.live.session.producer with
  | absent =>
    rw [on] at through
    cases through
  | ended clean =>
    rw [on] at progress
    obtain ⟨metrics, packets⟩ := folded (by simp [on])
    obtain ⟨data, unread, failure⟩ := progress.2.done
    exact ⟨data, metrics, packets, by rw [failure, if_pos rfl, progress.1], unread, edits⟩
  | active task stream frames =>
    rw [on] at through progress
    cases task with
    | poll | read =>
      obtain ⟨_, capturing, reads⟩ := progress
      obtain ⟨metrics, packets⟩ := folded (by simp [on])
      obtain ⟨data, unread, none⟩ := reads.done (List.isEmpty_iff.mp through)
      refine ⟨by simpa using data, metrics, packets, ?_, unread, edits⟩
      rw [none, capturing]
      rfl
    | close =>
      obtain ⟨_, stopped, failed⟩ := progress
      obtain ⟨metrics, packets⟩ := folded (by simp [on])
      obtain ⟨data, unread, failure⟩ := failed.done
      exact ⟨data, metrics, packets, by rw [failure, if_pos rfl, stopped], unread, edits⟩
    | ingest | fail | halt => cases through

/-- Of three frames pushed around a read that times out, the second meets a strategy set while it is
judged, and the third a filter added while it is counted. The fourth comes after the failure. -/
theorem capture_is_fold_of_changes :
    let host := MemoryHost.ofNames ["eth0"]
    let actions : List FeedAction := List.flatten [
      [.start], .replicate 6 (.call 0), .replicate 2 .produce,
      [.push [.frame [1, 2, 3], .frame [4]]], .replicate 16 .produce,
      [.edit (.setStrategy (.always .dropIncoming)), .push [.frame [5, 6], .failure "gone"],
        .push [.frame [7]]], .replicate 11 .produce,
      [.edit (.addFilter ⟨"none", fun _ => .ok false⟩)], .replicate 9 .produce]
    ∃ session f, (Session.create {
        capture := { interface := some (.name "eth0"), snaplen := 2 }, queue := { capacity := 1 } }
        host.backend {}).value.1 = .ok (.ok session) ∧
      (∀ action ∈ actions, action.Sound) ∧ (ofSession session {}).run actions = some f ∧
      f.caughtUp = true ∧ f.arrivals.map Arrival.data = [[1, 2], [4], [5, 6]] ∧
      f.live.session.queue.metrics = (session.takeInAll f.arrivals).queue.metrics ∧
      f.live.session.queue.queue.packets = [{ sequence := 0, data := [1, 2] }] ∧
      f.live.session.phase = .stopped ∧ f.live.world.items = [.frame [7]] := by
  intro host actions
  obtain ⟨session, made⟩ : ∃ session, (Session.create {
      capture := { interface := some (.name "eth0"), snaplen := 2 }, queue := { capacity := 1 } }
      host.backend {}).value.1 = .ok (.ok session) := ⟨_, rfl⟩
  obtain ⟨f, ran, now⟩ : ∃ f, (ofSession session {}).run actions = some f ∧
      (f.caughtUp, f.pushed, f.live.session.queue.queue.packets) =
        (true, [.frame [1, 2, 3], .frame [4], .frame [5, 6], .failure "gone", .frame [7]],
          [{ sequence := 0, data := [1, 2] }]) := by
    rw [← Option.map_eq_some_iff]
    cases made
    decide +kernel
  simp only [Prod.mk.injEq] at now
  obtain ⟨through, pushed, packets⟩ := now
  have sound : ∀ action ∈ actions, action.Sound := by
    have admits : Predicate.Answers ⟨"none", fun _ => .ok false⟩ := fun _ => ⟨false, rfl⟩
    simp [actions, or_imp, forall_and, FeedAction.Sound, Edit.Sound, admits,
      DropStrategy.decides_always]
  obtain ⟨data, metrics, _, phase, items, _⟩ := capture_is_fold made sound ran through
  rw [pushed] at data phase items
  exact ⟨session, f, made, sound, ran, through, data, metrics, packets, phase, items⟩

end FedSession

end CaptureQueue
