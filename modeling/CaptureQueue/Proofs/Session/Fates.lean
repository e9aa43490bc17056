import CaptureQueue.Proofs.Session.Passages

/-! The log of the producer as an account of the captured packets: it tells in order what became of
each of them, once, as the counters do in sum, and at its end how many there were. -/

set_option autoImplicit false
namespace CaptureQueue

variable {σ τ : Type}

/-! ## Steps of other threads -/

theorem Taking.step_sizes {s s' : SharedQueue} {t t' : Taking}
    (stepped : t.step s = some (s', t')) : s'.ledger.size? = s.ledger.size? := by
  cases t with
  | enter all =>
    simp only [step] at stepped
    split at stepped <;> cases stepped
    rfl
  | take all =>
    cases stepped
    rfl
  | count n packets => cases n <;> cases stepped <;> rfl
  | done packets => cases stepped

theorem Edit.step_ledger {s s' : SharedQueue} {e : Edit} (stepped : e.step s = some s') :
    s'.ledger = s.ledger := by
  cases e with
  | addFilter | removeFilter =>
    cases stepped
    rfl
  | setStrategy =>
    simp only [step] at stepped
    split at stepped <;> cases stepped
    rfl

namespace LiveSession

variable {l l' : LiveSession σ τ}

/-- What a step of another thread leaves as it is. By such steps the producer comes and goes. -/
structure Elsewhere (l l' : LiveSession σ τ) : Prop where
  drained : l.shared.Drained l'.shared
  sizes : l'.ledger.size? = l.ledger.size?
  ingest : l'.ingest = l.ingest
  backend : l'.session.backend = l.session.backend
  producer : l'.session.producer = l.session.producer ∧ l'.spawnings = l.spawnings ∨
    (∃ stream, l.spawnings = 0 ∧ l'.session.producer = .active .poll stream 0) ∨
    ∃ clean, l.session.producer = .ended clean ∧ l'.session.producer = .absent ∧
      l'.spawnings = l.spawnings

theorem elsewhere_of_step {action : LiveAction σ} (orderly : Orderly l l.calls)
    (stepped : l.step action = some l') (other : action ≠ .produce) : l.Elsewhere l' := by
  cases action with
  | produce => exact absurd rfl other
  | start | stop | beginTaking | outside =>
    cases stepped
    exact ⟨.refl _, rfl, rfl, rfl, .inl ⟨rfl, rfl⟩⟩
  | call index =>
    obtain ⟨c, c', others, after, calls, moved, rfl, was, _⟩ := exists_call stepped
    obtain ⟨shared, ingest, _⟩ := Call.step_frame moved
    have ledger : after.ledger = l.ledger := congrArg SharedQueue.ledger shared
    refine ⟨?_, congrArg Ledger.size? ledger, ingest, (Call.step_settings moved).1, ?_⟩
    · exact (shared ▸ .refl l.shared : l.shared.Drained after.shared)
    · rcases Call.step_producer moved with same | ⟨stream, opened, spawned, _⟩ | ended
      · exact .inl same
      · exact .inr (.inl ⟨stream, ((orderly.perm was).alone (by simp [opened])).1, spawned⟩)
      · exact .inr (.inr ended)
  | take index =>
    simp only [step, bind, Option.bind_eq_some_iff] at stepped
    obtain ⟨t, _, ⟨s, t'⟩, moved, same⟩ := stepped
    cases same
    exact ⟨Taking.step_drained moved, Taking.step_sizes moved, rfl, rfl, .inl ⟨rfl, rfl⟩⟩
  | edit e =>
    simp only [step, bind, Option.bind_eq_some_iff] at stepped
    obtain ⟨s, moved, same⟩ := stepped
    cases same
    exact ⟨Edit.step_drained moved, congrArg Ledger.size? (Edit.step_ledger moved), rfl, rfl,
      .inl ⟨rfl, rfl⟩⟩

/-- An errand that does not end the producer leaves all but its task, the phase, the failure and the
world. -/
theorem exists_errand {task : ProducerTask} {stream : τ} {frames : Nat}
    (on : l.session.producer = .active task stream frames) (outside : ∀ data, task ≠ .ingest data)
    (goes : task ≠ .close) :
    ∃ next phase failure world, l.errand = { l with
      session := { l.session with
        producer := .active next stream frames, phase := phase, failure := failure }
      world := world } := by
  cases task with
  | poll => exact ⟨_, _, _, _, errand_poll on⟩
  | read => exact ⟨_, _, _, _, errand_read on⟩
  | ingest data => exact absurd rfl (outside data)
  | fail => exact ⟨_, _, _, _, errand_fail on⟩
  | halt => exact ⟨_, _, _, _, errand_halt on⟩
  | close => exact absurd rfl goes

theorem ingest_eq_none {task : ProducerTask} {stream : τ} {frames : Nat}
    (orderly : Orderly l l.calls) (on : l.session.producer = .active task stream frames)
    (outside : ∀ data, task ≠ .ingest data) : l.ingest = none := by
  by_contra inside
  obtain ⟨data, _, _, at_work⟩ := orderly.inside inside
  cases on.symm.trans at_work
  exact outside data rfl

end LiveSession

/-! ## What the producer says besides -/

namespace Session

variable {s : Session σ τ} {task : ProducerTask} {stream : τ} {frames : Nat}

theorem errand_records (reticent : s.backend.Reticent)
    (on : s.producer = .active task stream frames) (outside : ∀ data, task ≠ .ingest data)
    (goes : task ≠ .close) (world : σ) : ∀ r ∈ (s.produce world).records, r.Aside := by
  cases task with
  | ingest data => exact absurd rfl (outside data)
  | close => exact absurd rfl goes
  | poll | fail | halt =>
    have nothing : (s.produce world).records = [] := by
      simp only [produce, on]
      rfl
    simp [nothing]
  | read =>
    have said : (s.produce world).records = (s.backend.read stream world).records ++
        (afterRead (s.backend.read stream world).value.1).records := by
      simp only [produce, on, Act.records_bind]
      exact congrArg _ ((List.append_nil _).trans (List.append_nil _))
    intro r member
    rw [said] at member
    rcases List.mem_append.mp member with read | after
    · exact reticent.read stream world r read
    · exact aside_of_afterRead r after

def finishRecord (frames : Nat) : LogRecord :=
  record .debug "Producer finished" [("frames", toString frames)]

theorem close_records (on : s.producer = .active .close stream frames) (world : σ) :
    (s.produce world).records = (s.backend.close stream world).records ++
      if (s.backend.close stream world).value.1.2.isOk then [finishRecord frames] else [] := by
  simp only [produce, on, Act.records_bind]
  obtain ⟨_, outcome⟩ := (s.backend.close stream world).value.1
  cases outcome <;> rfl

end Session

namespace Telling

theorem silent_of_say {t : Telling} {records : List LogRecord}
    (silent : ∀ r ∈ t.log, r.finishes = false) (others : ∀ r ∈ records, r.finishes = false) :
    ∀ r ∈ (t.say records).log, r.finishes = false := by
  intro r member
  rcases List.mem_append.mp member with old | new
  · exact silent r old
  · obtain ⟨r, said, rfl⟩ := List.mem_map.mp new
    exact others r said

theorem silent_of_work {t : Telling} {s : SharedQueue} {i : Ingest} (h : t.Fits s [i])
    (silent : ∀ r ∈ t.log, r.finishes = false) :
    ∀ r ∈ (t.work s i).log, r.finishes = false := by
  cases i with
  | judge p =>
    simp only [Telling.work]
    split <;> exact silent
  | dismiss | leave outcome =>
    refine silent_of_say silent fun r due => ?_
    exact LogRecord.finishes_of_tellsFate (h.due r due)
  | done result =>
    exact silent_of_say silent fun r member => (Session.aside_of_break result r member).2
  | _ => exact silent

end Telling

namespace LoggedSession

variable {l l' : LoggedSession σ τ}

/-! ## The last record -/

/-- Whether the producer has spoken its last word, and the number that it says or is going to. -/
inductive Ending (l : LoggedSession σ τ) : Prop where
  | before (silent : ∀ r ∈ l.telling.log, r.finishes = false)
    (going : l.live.session.producer ≠ .ended true)
    (count : ∀ task stream frames, l.live.session.producer = .active task stream frames →
      l.live.ingest = none → l.live.ledger.captured.length = frames + l.live.ledger.lost)
  | after {earlier : List LogRecord} {frames : Nat}
    (log : l.telling.log = earlier ++ [(Session.finishRecord frames).byProducer])
    (silent : ∀ r ∈ earlier, r.finishes = false)
    (count : l.live.ledger.captured.length = frames + l.live.ledger.lost)
    (spawned : l.live.spawnings ≠ 0)
    (gone : ∀ task stream frames, l.live.session.producer ≠ .active task stream frames)

/-- The log of a session is right, and its books are. -/
structure Faithful (l : LoggedSession σ τ) : Prop where
  accounted : l.live.Accounted
  reticent : l.live.session.backend.Reticent
  fits : l.telling.Fits l.live.shared l.live.ingest.toList
  ending : l.Ending

namespace Ending

theorem elsewhere {live : LiveSession σ τ} (h : l.Ending) (accounted : l.live.Accounted)
    (away : l.live.Elsewhere live) : Ending { l with live := live } := by
  have captured : live.ledger.captured = l.live.ledger.captured := away.drained.frames
  have lost : live.ledger.lost = l.live.ledger.lost := away.drained.lost
  cases h with
  | before silent going count =>
    rcases away.producer with ⟨same, _⟩ | ⟨stream, none, spawned⟩ | ⟨_, _, absent, _⟩
    · refine .before silent (by rwa [same]) fun task stream frames on outside => ?_
      rw [captured, lost]
      exact count task stream frames (same.symm.trans on) (away.ingest.symm.trans outside)
    · refine .before silent (by simp [spawned]) fun task stream frames on outside => ?_
      cases spawned.symm.trans on
      have empty := accounted.numbered.fresh none
      have few := accounted.booked.lost_le_captured
      rw [empty] at few
      simp only [captured, lost, empty]
      simp only [List.length_nil] at few ⊢
      omega
    · refine .before silent (by simp [absent]) fun task stream frames on => ?_
      cases absent.symm.trans on
  | after log silent count spawned gone =>
    refine .after log silent (by rwa [captured, lost]) ?_ ?_
    · rcases away.producer with ⟨_, same⟩ | ⟨_, none, _⟩ | ⟨_, _, _, same⟩
      · rwa [same]
      · exact absurd none spawned
      · rwa [same]
    · rcases away.producer with ⟨same, _⟩ | ⟨_, none, _⟩ | ⟨_, _, absent, _⟩
      · rwa [same]
      · exact absurd none spawned
      · simp [absent]

theorem unfinished {task : ProducerTask} {stream : τ} {frames : Nat} (h : l.Ending)
    (on : l.live.session.producer = .active task stream frames) :
    (∀ r ∈ l.telling.log, r.finishes = false) ∧ (l.live.ingest = none →
      l.live.ledger.captured.length = frames + l.live.ledger.lost) := by
  cases h with
  | before silent going count => exact ⟨silent, count _ _ _ on⟩
  | after log silent count spawned gone => exact absurd on (gone _ _ _)

end Ending

/-! ## Steps of the producer -/

section

variable {task : ProducerTask} {data : Bytes} {stream : τ} {frames : Nat}

theorem Faithful.errand (h : l.Faithful) (closed : List τ)
    (on : l.live.session.producer = .active task stream frames)
    (outside : ∀ data, task ≠ .ingest data) (goes : task ≠ .close) :
    let live := { l.live.errand with closed := closed }
    l.turn.Fits live.shared live.ingest.toList ∧ Ending { live := live, telling := l.turn } := by
  have others := Session.errand_records h.reticent on outside goes l.live.world
  have none := LiveSession.ingest_eq_none h.accounted.orderly on outside
  have owed : l.telling.due = [] := h.fits.owed (by simp [none])
  obtain ⟨silent, count⟩ := h.ending.unfinished on
  obtain ⟨next, phase, failure, world, same⟩ := LiveSession.exists_errand on outside goes
  rw [turn_of_errand on outside, same]
  refine ⟨h.fits.say owed fun r member => (others r member).1, .before ?_ (by simp) ?_⟩
  · exact Telling.silent_of_say silent fun r member => (others r member).2
  · intro task stream frames now
    cases now
    exact count

theorem Faithful.close (h : l.Faithful) (closed : List τ)
    (on : l.live.session.producer = .active .close stream frames) :
    let live := { l.live.errand with closed := closed }
    l.turn.Fits live.shared live.ingest.toList ∧ Ending { live := live, telling := l.turn } := by
  have outside : ∀ data, ProducerTask.close ≠ .ingest data := by simp
  have none := LiveSession.ingest_eq_none h.accounted.orderly on outside
  have owed : l.telling.due = [] := h.fits.owed (by simp [none])
  have spawned : l.live.spawnings ≠ 0 := h.accounted.orderly.spawned (by simp [on])
  have others := h.reticent.close stream l.live.world
  obtain ⟨silent, count⟩ := h.ending.unfinished on
  have quiet := Telling.silent_of_say silent fun r member => (others r member).2
  have fits := h.fits.say owed fun r member => (others r member).1
  rw [turn_of_errand on outside, Session.close_records on, LiveSession.errand_end on,
    Telling.say_append]
  cases clean : (l.live.session.backend.close stream l.live.world).value.1.2.isOk with
  | true =>
    have last : (Session.finishRecord frames).tellsFate = false := by
      simp [Session.finishRecord, Session.record, LogRecord.tellsFate, LogRecord.fateMessages]
    exact ⟨fits.say owed (by simpa using last), .after rfl quiet (count none) spawned (by simp)⟩
  | false =>
    refine ⟨fits.say owed (by simp), .before ?_ (by simp) (by simp)⟩
    exact Telling.silent_of_say quiet (by simp)

theorem turn_eq_work (on : l.live.session.producer = .active (.ingest data) stream frames) :
    l.turn = l.telling.work l.live.shared
      (l.live.ingest.getD (.capture { sequence := frames, data := data })) := by
  rw [turn_of_ingest on]
  cases l.live.ingest <;> rfl

theorem Faithful.ingest (h : l.Faithful) {live : LiveSession σ τ}
    (on : l.live.session.producer = .active (.ingest data) stream frames)
    (produced : l.live.Produced live) :
    l.turn.Fits live.shared live.ingest.toList ∧ Ending { live := live, telling := l.turn } := by
  obtain ⟨silent, _⟩ := h.ending.unfinished on
  obtain ⟨count, kept⟩ := h.accounted.numbered.going _ _ _ on rfl
  have fits : l.telling.Fits l.live.shared
      [l.live.ingest.getD (.capture { sequence := frames, data := data })] := by
    have fits := h.fits
    cases inside : l.live.ingest with
    | none =>
      rw [inside] at fits
      exact fits.begin _
    | some i => rwa [inside] at fits
  rw [turn_eq_work on]
  have silent := Telling.silent_of_work fits silent
  cases produced with
  | turn now outside =>
    cases on.symm.trans now
    exact absurd rfl (outside data)
  | close now => cases on.symm.trans now
  | work now moved =>
    cases on.symm.trans now
    have positive : 0 < l.live.shared.queue.queue.capacity := Balanced.positive h.accounted.booked
    refine ⟨fits.work ?_ positive moved, .before silent ?_ (by simp)⟩
    · cases inside : l.live.ingest <;> simp_all [LiveSession.shared, Ingest.broke]
    · simp [LiveSession.withShared, on]
  | succeed now through =>
    cases on.symm.trans now
    rw [through] at fits silent count kept ⊢
    refine ⟨fits.finish, .before silent (by simp) ?_⟩
    have kept : l.live.ledger.lost = 0 := kept
    intro task stream frames now _
    cases now
    rw [kept]
    exact count
  | broke now through =>
    cases on.symm.trans now
    rw [through] at fits silent count kept ⊢
    refine ⟨fits.finish, .before silent (by simp) ?_⟩
    have kept : l.live.ledger.lost = 1 := kept
    intro task stream frames now _
    cases now
    rw [kept]
    exact count

end

theorem Faithful.produce {live : LiveSession σ τ} (h : l.Faithful)
    (stepped : l.live.produce = some live) :
    l.turn.Fits live.shared live.ingest.toList ∧ Ending { live := live, telling := l.turn } := by
  cases on : l.live.session.producer with
  | absent | ended => simp [LiveSession.produce, on] at stepped
  | active task stream frames =>
    by_cases inside : ∃ data, task = .ingest data
    · obtain ⟨data, rfl⟩ := inside
      exact h.ingest on (LiveSession.produced_of_produce stepped)
    · have outside : ∀ data, task ≠ .ingest data := fun data same => inside ⟨data, same⟩
      obtain ⟨closed, produced, _⟩ := LiveSession.produce_of_errand on outside
      cases produced.symm.trans stepped
      by_cases goes : task = .close
      · subst goes
        exact h.close closed on
      · exact h.errand closed on outside goes

/-! ## Whole runs -/

theorem Faithful.start {s : Session σ τ} (fresh : s.Fresh) (reticent : s.backend.Reticent)
    (world : σ) : (ofSession s world).Faithful where
  accounted := .start fresh world
  reticent := reticent
  fits := .start _ rfl
  ending := by
    have absent : (ofSession s world).live.session.producer = .absent := fresh.producer
    exact .before (by simp [ofSession]) (by simp [absent]) (by simp [absent])

theorem Faithful.step {action : LiveAction σ} (h : l.Faithful) (stepped : l.step action = some l') :
    l'.Faithful := by
  simp only [LoggedSession.step, bind, Option.bind_eq_some_iff] at stepped
  obtain ⟨live, moved, same⟩ := stepped
  have acted := LiveSession.acted_of_step moved
  have accounted : live.Accounted :=
    ⟨h.accounted.orderly.acted acted, h.accounted.booked.acted acted,
      h.accounted.numbered.acted h.accounted.orderly h.accounted.booked acted⟩
  by_cases own : action = .produce
  · subst own
    cases same
    obtain ⟨fits, ending⟩ := h.produce moved
    have settings := (LiveSession.produced_of_produce moved).settings
    exact ⟨accounted, settings.1 ▸ h.reticent, fits, ending⟩
  · have away := LiveSession.elsewhere_of_step h.accounted.orderly moved own
    have told : l' = { l with live := live } := by
      cases action with
      | produce => exact absurd rfl own
      | _ =>
        cases same
        rfl
    rw [told]
    refine ⟨accounted, away.backend ▸ h.reticent, ?_, h.ending.elsewhere h.accounted away⟩
    rw [away.ingest]
    exact h.fits.of_eq away.drained.frames away.sizes

theorem Faithful.run {actions : List (LiveAction σ)} (h : l.Faithful)
    (ran : l.run actions = some l') : l'.Faithful := by
  induction actions generalizing l with
  | nil =>
    cases ran
    exact h
  | cons action rest ih =>
    simp only [LoggedSession.run, List.foldlM_cons, bind, Option.bind_eq_some_iff] at ran
    obtain ⟨next, stepped, ran⟩ := ran
    exact ih (h.step stepped) ran

def count (l : LoggedSession σ τ) (message : String) : Nat :=
  l.telling.log.countP (·.message = message)

theorem Faithful.told_eq (h : l.Faithful) (outside : l.live.ingest = none) :
    l.telling.log.filter LogRecord.tellsFate = l.telling.passages.flatMap Passage.told := by
  have told := h.fits.told
  rw [h.fits.owed (by simp [outside]), List.map_nil, List.append_nil] at told
  exact told

theorem Faithful.count_eq (h : l.Faithful) (outside : l.live.ingest = none) (fate : Fate)
    {message : String} (spoken : fate.message? = some message) :
    l.count message = l.telling.passages.countP (·.fate = fate) := by
  have tells : ∀ r : LogRecord, r.message = message → r.tellsFate = true := by
    intro r same
    cases fate <;> cases spoken <;> simp [LogRecord.tellsFate, LogRecord.fateMessages, same]
  have among : l.count message =
      (l.telling.log.filter LogRecord.tellsFate).countP (·.message = message) := by
    rw [List.countP_filter]
    refine List.countP_congr fun r _ => ?_
    simpa using tells r
  rw [among, h.told_eq outside, Passage.countP_flatMap_told spoken]

-- A counter that tallies a class shows the number of records for it.
theorem Faithful.counter_of_class (h : l.Faithful) (outside : l.live.ingest = none) (c : Counter)
    (fate : Fate) {message : String} {size : Nat} (counts : c.CountsEvents)
    (spoken : fate.message? = some message) (sized : l.live.ledger.size? fate = some size)
    (tally : c.tally (l.live.ledger.updates ++ [].flatMap Ingest.pending) = size) :
    c.value l.live.session.queue.metrics = UInt64.ofNat (l.count message) := by
  rw [List.flatMap_nil, List.append_nil] at tally
  have books : Balanced l.live.shared l.live.ingest.toList l.live.takings := h.accounted.booked
  have value : c.value l.live.session.queue.metrics =
      UInt64.ofNat (c.tally l.live.ledger.updates) := books.value_eq counts
  rw [value, tally, h.count_eq outside fate spoken, h.fits.sizes fate size sized]

/-- All that was offered was accepted, dropped or rejected, but for what the strategy broke over. -/
theorem Faithful.enqueued (h : l.Faithful) (outside : l.live.ingest = none)
    (books : Balanced l.live.shared [] l.live.takings) :
    Counter.enqueued.tally l.live.ledger.updates = l.count "Packet enqueued" +
      l.count "Queue full, packet dropped" + l.count "Queue full, packet rejected" +
      l.telling.passages.countP (·.fate = .undecided) := by
  have captured := congrArg List.length h.fits.captured
  have size := books.length_captured
  have tally := books.enqueued
  have fates := Passage.countP_fates l.telling.passages
  have filtered := h.fits.sizes .filtered _ rfl
  have dropped := h.fits.sizes .dropped _ rfl
  have rejected := h.fits.sizes .rejected _ rfl
  have unjudged := h.fits.sizes .unjudged _ rfl
  have undecided := h.fits.sizes .undecided _ rfl
  rw [h.count_eq outside .accepted rfl, h.count_eq outside .dropped rfl,
    h.count_eq outside .rejected rfl]
  simp only [outside, Option.toList_none, List.flatMap_nil, List.append_nil, List.length_map]
    at captured
  simp only [List.flatMap_nil, List.length_nil, List.map_nil, List.sum_nil, LiveSession.shared]
    at size tally captured filtered dropped rejected unjudged undecided
  omega

theorem Faithful.counters (h : l.Faithful) (outside : l.live.ingest = none) :
    let metrics := l.live.session.queue.metrics
    metrics.filtered = UInt64.ofNat (l.count "Packet filtered") ∧
    metrics.dropped = UInt64.ofNat (l.count "Queue full, packet dropped") ∧
    metrics.rejected = UInt64.ofNat (l.count "Queue full, packet rejected") ∧
    metrics.enqueued = UInt64.ofNat (l.count "Packet enqueued" +
      l.count "Queue full, packet dropped" + l.count "Queue full, packet rejected" +
      l.telling.passages.countP (·.fate = .undecided)) := by
  intro metrics
  have books : Balanced l.live.shared [] l.live.takings := h.accounted.booked.balanced outside
  have enqueued : metrics.enqueued = UInt64.ofNat (Counter.enqueued.tally l.live.ledger.updates) :=
    books.value_eq (c := .enqueued) (by decide)
  rw [h.enqueued outside books] at enqueued
  exact ⟨h.counter_of_class outside .filtered .filtered (by decide) rfl rfl books.filtered,
    h.counter_of_class outside .dropped .dropped (by decide) rfl rfl books.dropped,
    h.counter_of_class outside .rejected .rejected (by decide) rfl rfl books.rejected, enqueued⟩

/-- While the producer is outside its work on a frame, its log tells what became of each captured
packet: in order one record for each, with its number and its outcome. Only the last can be one that a
predicate or the strategy broke over, and nothing is said of it. The counters agree with the log, and
the last record, once it is said, has the number of packets that were told of. What a passage says is
what `Session.ingest` says (`Session.ingest_records`), and the log of all that is executed is such a log
(`LoggedSession.exists_run_of_executed`, `Session.Executed.log_agrees`). -/
theorem fates_told_in_order {l : LoggedSession σ τ} {config : Config} {backend : Backend σ τ}
    {before world : σ} {session : Session σ τ} {actions : List (LiveAction σ)}
    (made : (Session.create config backend before).value.1 = .ok (.ok session))
    (reticent : backend.Reticent) (ran : (ofSession session world).run actions = some l)
    (outside : l.live.ingest = none) :
    let captured := l.live.ledger.captured
    let told := l.telling.log.filter LogRecord.tellsFate
    let metrics := l.live.session.queue.metrics
    l.telling.passages.map Passage.packet = captured ∧
    captured.map Packet.sequence = List.range captured.length ∧
    (∃ whole broken, l.telling.passages = whole ++ broken ∧ List.Forall₂ Passage.Tells whole told ∧
      (∀ p ∈ broken, p.Broke) ∧ broken.length ≤ 1) ∧
    (metrics.filtered = UInt64.ofNat (l.count "Packet filtered") ∧
      metrics.dropped = UInt64.ofNat (l.count "Queue full, packet dropped") ∧
      metrics.rejected = UInt64.ofNat (l.count "Queue full, packet rejected") ∧
      metrics.enqueued = UInt64.ofNat (l.count "Packet enqueued" +
        l.count "Queue full, packet dropped" + l.count "Queue full, packet rejected" +
        l.telling.passages.countP (·.fate = .undecided))) ∧
    (((∀ r ∈ l.telling.log, r.message ≠ "Producer finished") ∧
        l.live.session.producer ≠ .ended true) ∨
      ∃ earlier, l.telling.log = earlier ++ [{
          level := .debug
          origin := .session
          message := "Producer finished"
          fields := [("frames", toString told.length)]
          thread := .producer }] ∧
        ∀ r ∈ earlier, r.message ≠ "Producer finished") := by
  intro captured told metrics
  have fresh := Session.create_fresh made
  have reticent : session.backend.Reticent := by
    obtain ⟨_, _, _, rfl⟩ := Session.create_eq_ok made
    exact reticent
  have faithful : l.Faithful := (Faithful.start fresh reticent world).run ran
  have fits := faithful.fits
  have passages : l.telling.passages.map Passage.packet = captured := by
    have captured := fits.captured
    rw [outside, Option.toList_none, List.flatMap_nil, List.append_nil] at captured
    exact captured.symm
  obtain ⟨whole, broken, split, unbroken, broke, few⟩ := fits.exists_broken
  have slots : ∀ p ∈ whole ++ broken, 0 < p.queue.capacity := by
    rw [← split]
    exact fits.slots
  have silent : ∀ p ∈ broken, p.told = [] ∧ p.Broke := fun p member =>
    Passage.told_of_broke (slots p (List.mem_append_right _ member)) (broke p member)
  have said : told = whole.flatMap Passage.told := by
    have nothing : broken.flatMap Passage.told = [] :=
      List.flatMap_eq_nil_iff.mpr fun p member => (silent p member).1
    simp only [told]
    rw [faithful.told_eq outside, split, List.flatMap_append, nothing, List.append_nil]
  have tells : List.Forall₂ Passage.Tells whole told := by
    rw [said]
    exact Passage.forall₂_told (fun p member => slots p (List.mem_append_left _ member)) unbroken
  refine ⟨passages, faithful.accounted.numbered.ordered, ⟨whole, broken, split, tells, ?_, few⟩,
    faithful.counters outside, ?_⟩
  · exact fun p member => (silent p member).2
  · cases faithful.ending with
    | before silent going _ =>
      exact .inl ⟨fun r member => by simpa [LogRecord.finishes] using silent r member, going⟩
    | @after earlier frames log silent count _ _ =>
      refine .inr ⟨earlier, ?_, fun r member => by
        simpa [LogRecord.finishes] using silent r member⟩
      have lost : l.live.ledger.lost = broken.length := by
        have none : whole.countP Passage.broke = 0 := by simpa [List.countP_eq_zero] using unbroken
        have all : broken.countP Passage.broke = broken.length := List.countP_eq_length.mpr broke
        have lost := fits.lost_eq
        rw [split, List.countP_append, none, all, Nat.zero_add] at lost
        exact lost
      have total := congrArg List.length passages
      rw [List.length_map, split, List.length_append, tells.length_eq] at total
      have frames_eq : frames = told.length := by
        simp only [captured] at total
        omega
      rw [log, frames_eq]
      rfl

/-- Six frames at a queue of one slot, one for each outcome: the strategy breaks over the last. -/
theorem fates_told_in_order_of_six :
    let noOne : Predicate := ⟨"no-one", fun p => .ok (p.sequence ≠ 1)⟩
    let breaks : DropStrategy := ⟨"breaks", fun _ _ _ => .error (.ofText "no")⟩
    let actions : List (LiveAction Script) :=
      [.edit (.addFilter noOne), .start] ++ List.replicate 6 (.call 0) ++
        List.replicate 31 .produce ++ [.beginTaking false] ++ List.replicate 4 (.take 0) ++
        List.replicate 12 .produce ++ [.edit (.setStrategy (.always .rejectAndSignal))] ++
        List.replicate 12 .produce ++ [.edit (.setStrategy breaks)] ++ List.replicate 15 .produce
    let lines : List (String × List (String × String)) := [
      ("Packet enqueued", [("sequence", "0")]),
      ("Packet filtered", [("sequence", "1"), ("id", "filter#0"), ("filter", "no-one")]),
      ("Queue full, packet dropped",
        [("sequence", "0"), ("incoming", "2"), ("decision", "drop_oldest")]),
      ("Packet enqueued", [("sequence", "3")]),
      ("Queue full, packet rejected", [("sequence", "4"), ("capacity", "1")]),
      ("Producer thread panicked", [("reason", "no")]),
      ("Producer finished", [("frames", "5")])]
    let host : ScriptedHost := { interfaces := .ofList ["eth0"] }
    ∃ session l, (Session.create
        { capture := { interface := some (.name "eth0") }, queue := { capacity := 1 } }
        host.backend {}).value.1 = .ok (.ok session) ∧
      host.backend.Reticent ∧
      (ofSession session { readings := List.replicate 6 (.frame []) }).run actions = some l ∧
      l.live.ingest = none ∧
      (l.telling.log.map fun r => (r.message, r.fields)) = lines ∧
      l.telling.passages.map Passage.packet = l.live.ledger.captured ∧
      (∃ whole broken, l.telling.passages = whole ++ broken ∧
        List.Forall₂ Passage.Tells whole (l.telling.log.filter LogRecord.tellsFate) ∧
        ∀ p ∈ broken, p.Broke) ∧
      l.live.session.queue.metrics.enqueued = UInt64.ofNat (l.count "Packet enqueued" +
        l.count "Queue full, packet dropped" + l.count "Queue full, packet rejected" +
        l.telling.passages.countP (·.fate = .undecided)) := by
  intro noOne breaks actions lines host
  obtain ⟨session, made⟩ : ∃ session, (Session.create
      { capture := { interface := some (.name "eth0") }, queue := { capacity := 1 } }
      host.backend {}).value.1 = .ok (.ok session) := ⟨_, rfl⟩
  obtain ⟨l, ran, seen⟩ : ∃ l, (ofSession session { readings := List.replicate 6 (.frame []) }).run
      actions = some l ∧ (l.live.ingest.isNone, l.telling.log.map fun r => (r.message, r.fields)) =
      (true, lines) := by
    rw [← Option.map_eq_some_iff]
    cases made
    decide +kernel
  simp only [Prod.mk.injEq, Option.isNone_iff_eq_none] at seen
  obtain ⟨outside, log⟩ := seen
  have reticent := host.reticent
  obtain ⟨packets, _, ⟨whole, broken, split, tells, broke, _⟩, ⟨_, _, _, enqueued⟩, _⟩ :=
    fates_told_in_order made reticent ran outside
  exact ⟨session, l, made, reticent, ran, outside, log, packets,
    ⟨whole, broken, split, tells, broke⟩, enqueued⟩

end LoggedSession

end CaptureQueue
