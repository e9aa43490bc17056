import CaptureQueue.Proofs.Session.Lifecycle

/-! The accounts of a whole session: the captured packets are numbered without a gap, and each of
them is in one class, which the counters show the sizes of. -/

set_option autoImplicit false
namespace CaptureQueue

variable {σ τ : Type}

def Ledger.lost (ledger : Ledger) : Nat := ledger.unjudged.length + ledger.undecided.length

theorem SharedQueue.Drained.lost {s s' : SharedQueue} (h : s.Drained s') :
    s'.ledger.lost = s.ledger.lost := by
  unfold Ledger.lost
  rw [h.unjudged, h.undecided]

namespace Ingest

def arriving : Ingest → List Packet
  | .capture p => [p]
  | _ => []

def broke : Ingest → Bool
  | .settle _ outcome | .release outcome | .leave outcome => !outcome.isOk
  | .done result => !result.isOk
  | _ => false

variable {s s' : SharedQueue} {i i' : Ingest}

theorem step_captured (stepped : i.step s = some (s', i')) :
    s'.ledger.captured = s.ledger.captured ++ i.arriving ∧ ∀ p, i' ≠ .capture p := by
  cases i with
  | capture p =>
    cases stepped
    exact ⟨rfl, by simp⟩
  | judge p =>
    simp only [step] at stepped
    split at stepped <;> cases stepped
    all_goals exact ⟨by simp [arriving, SharedQueue.breakOver, SharedQueue.filter], by simp⟩
  | enter p =>
    simp only [step] at stepped
    split at stepped <;> cases stepped
    exact ⟨by simp [arriving], by simp⟩
  | settle asked outcome =>
    cases stepped
    exact ⟨by simp [arriving, SharedQueue.countAll_eq], by simp⟩
  | leave outcome =>
    cases stepped
    exact ⟨by simp [arriving, SharedQueue.countAll_eq], by simp⟩
  | measure | dismiss | register | decide | release =>
    cases stepped
    exact ⟨by simp [arriving, SharedQueue.count, SharedQueue.offer], by simp⟩
  | done result => cases stepped

theorem step_lost (stepped : i.step s = some (s', i')) :
    s'.ledger.lost + i.broke.toNat = s.ledger.lost + i'.broke.toNat := by
  cases i with
  | judge p =>
    simp only [step] at stepped
    split at stepped <;> cases stepped
    · simp only [Ledger.lost, SharedQueue.breakOver, List.length_append, List.length_singleton, broke,
        Bool.toNat_false, Except.isOk, Except.toBool, Bool.not_false, Bool.toNat_true]
      omega
    · rfl
    · rfl
  | enter p =>
    simp only [step] at stepped
    split at stepped <;> cases stepped
    rfl
  | decide p =>
    cases stepped
    cases outcome : (s.queue.queue.offer p).2 with
    | error fault =>
      simp only [Ledger.lost, SharedQueue.offer, outcome, Offered.broken, List.length_append,
        List.length_singleton, broke, Bool.toNat_false, Except.isOk, Except.toBool, Bool.not_false,
        Bool.toNat_true]
      omega
    | ok offered =>
      simp [Ledger.lost, SharedQueue.offer, outcome, Offered.broken, broke, Except.isOk, Except.toBool]
  | settle asked outcome =>
    cases stepped
    simp [Ledger.lost, SharedQueue.countAll_eq, broke]
  | leave outcome =>
    cases stepped
    cases outcome <;>
      simp [Ledger.lost, SharedQueue.countAll_eq, broke, Except.map, Except.isOk, Except.toBool]
  | capture | measure | dismiss | register | release =>
    cases stepped
    rfl
  | done result => cases stepped

end Ingest

namespace LiveSession

variable {l l' : LiveSession σ τ}

/-! ## The books of the queue -/

/-- The books of the session's queue, with the producer and the consumers at work on it. -/
def Booked (l : LiveSession σ τ) : Prop := Balanced l.shared l.ingest.toList l.takings

theorem Booked.start {s : Session σ τ} (fresh : s.Fresh) (world : σ) : (ofSession s world).Booked := by
  obtain ⟨capacity, strategy, positive, queue⟩ := fresh.queue
  have books : Balanced { filters := s.filters, queue := { queue := .create capacity strategy } } [] [] :=
    Balanced.start s.filters positive rfl
  unfold Booked
  simp only [ofSession, shared, queue]
  exact books

theorem Booked.balanced (h : l.Booked) (outside : l.ingest = none) :
    Balanced l.shared [] l.takings := by
  unfold Booked at h
  rwa [outside] at h

theorem Booked.acted (h : l.Booked) (acted : l.Acted l') : l'.Booked := by
  unfold Booked at h ⊢
  cases acted with
  | producer produced =>
    cases produced with
    | turn | close => exact h
    | work on moved =>
      cases inside : l.ingest with
      | none =>
        rw [inside] at h moved
        exact (h.begin_ingest _).ingest_step moved
      | some i =>
        rw [inside] at h moved
        exact h.ingest_step moved
    | succeed on through | broke on through =>
      rw [through] at h
      exact h.end_ingest
  | call stepped was now =>
    obtain ⟨shared, ingest, takings, _⟩ := Call.step_frame stepped
    rw [← shared, ← ingest, ← takings] at h
    exact h
  | beginTaking now => exact (h.begin_taking _).perm (.refl _) now.symm
  | taking stepped was now =>
    have moved := (h.perm (.refl _) was).taking_step stepped
    exact moved.perm (.refl _) now.symm
  | edited stepped => exact h.edit_step stepped
  | beginCall | outside => exact h

/-! ## The numbers of the packets -/

/-- How many frames the producer has taken in, told by its own count. -/
structure Numbered (l : LiveSession σ τ) : Prop where
  ordered : l.ledger.captured.map Packet.sequence = List.range l.ledger.captured.length
  fresh : l.spawnings = 0 → l.ledger.captured = []
  lost_le : l.ledger.lost ≤ 1
  begun : ∀ p, l.ingest ≠ some (.capture p)
  going : ∀ task stream frames, l.session.producer = .active task stream frames →
    task.captures = true → l.ledger.captured.length = frames + l.ingest.toList.length ∧
      l.ledger.lost = ((l.ingest.map Ingest.broke).getD false).toNat

theorem Numbered.start {s : Session σ τ} (fresh : s.Fresh) (world : σ) :
    (ofSession s world).Numbered := by
  refine ⟨rfl, fun _ => rfl, Nat.zero_le _, by simp [ofSession], ?_⟩
  intro task stream frames on
  rw [show (ofSession s world).session.producer = .absent from fresh.producer] at on
  cases on

theorem Booked.lost_le_captured (h : l.Booked) : l.ledger.lost ≤ l.ledger.captured.length := by
  have size := Balanced.length_captured h
  simp only [shared] at size
  unfold Ledger.lost
  omega

-- The stage that a thread is at once it is inside is not the first.
theorem Ingest.arriving_eq_nil {i : Ingest} (begun : ∀ p, i ≠ .capture p) : i.arriving = [] := by
  cases i with
  | capture p => exact absurd rfl (begun p)
  | _ => rfl

-- A step of the producer's work: the frame it takes in gets the number of the frames before it.
theorem Numbered.work {data : Bytes} {stream : τ} {frames : Nat} {s : SharedQueue} {i : Ingest}
    (h : l.Numbered) (on : l.session.producer = .active (.ingest data) stream frames)
    (moved : (l.ingest.getD (.capture { sequence := frames, data := data })).step l.shared =
      some (s, i)) :
    s.ledger.captured.map Packet.sequence = List.range s.ledger.captured.length ∧
      s.ledger.captured.length = frames + 1 ∧ s.ledger.lost = i.broke.toNat := by
  obtain ⟨count, lostBefore⟩ := h.going _ _ _ on rfl
  obtain ⟨captured, _⟩ := Ingest.step_captured moved
  have lost := Ingest.step_lost moved
  simp only [shared] at captured lost
  cases inside : l.ingest with
  | none =>
    have unbroken : (Ingest.capture { sequence := frames, data := data }).broke = false := rfl
    have arriving : (Ingest.capture { sequence := frames, data := data }).arriving =
      [{ sequence := frames, data := data }] := rfl
    simp only [inside, Option.getD_none, Option.map_none, Option.toList_none, List.length_nil,
      Bool.toNat_false, unbroken, arriving] at captured lost lostBefore count
    refine ⟨?_, ?_, by omega⟩
    · rw [captured, List.map_append, h.ordered, List.length_append, List.length_singleton,
        List.range_succ, count]
      rfl
    · rw [captured, List.length_append, List.length_singleton, count]
  | some j =>
    have same : j.arriving = [] := Ingest.arriving_eq_nil fun p new =>
      h.begun p (inside.trans (congrArg some new))
    simp only [inside, Option.getD_some, Option.map_some, Option.toList_some,
      List.length_singleton] at captured lost lostBefore count
    rw [same, List.append_nil] at captured
    rw [captured]
    exact ⟨h.ordered, count, by omega⟩

theorem Numbered.produced (h : l.Numbered) (orderly : Orderly l l.calls) (produced : l.Produced l') :
    l'.Numbered := by
  have fresh := h.fresh
  have present := orderly.present
  cases produced with
  | turn on outside captures moved =>
    refine ⟨h.ordered, fresh, h.lost_le, h.begun, ?_⟩
    intro task stream frames now goes
    cases now
    exact h.going _ _ _ on (captures goes)
  | close on =>
    refine ⟨h.ordered, fresh, h.lost_le, h.begun, ?_⟩
    intro task stream frames now
    cases now
  | work on moved =>
    obtain ⟨ordered, count, lost⟩ := h.work on moved
    obtain ⟨_, begun⟩ := Ingest.step_captured moved
    refine ⟨ordered, fun none => ?_, Nat.le_trans (Nat.le_of_eq lost) (Bool.toNat_le _), ?_, ?_⟩
    · rw [on, show l.spawnings = 0 from none] at present
      exact absurd present (Nat.not_succ_le_zero 0)
    · intro p new
      cases new
      exact begun p rfl
    · intro task stream frames' now goes
      cases on.symm.trans now
      exact ⟨count, lost⟩
  | succeed on through =>
    obtain ⟨count, lostBefore⟩ := h.going _ _ _ on rfl
    rw [through] at count lostBefore
    refine ⟨h.ordered, fresh, h.lost_le, by simp, ?_⟩
    intro task stream frames now goes
    cases now
    exact ⟨count, lostBefore⟩
  | broke on through =>
    refine ⟨h.ordered, fresh, h.lost_le, by simp, ?_⟩
    intro task stream frames now goes
    cases now
    cases goes

theorem Numbered.call_step {c c' : Call τ} (h : l.Numbered) (booked : l.Booked)
    (early : c.streams ≠ [] → l.spawnings = 0 ∧ l.ingest = none)
    (stepped : c.step l = some (l', c')) : l'.Numbered := by
  obtain ⟨shared, ingest, _, _⟩ := Call.step_frame stepped
  have ledger : l'.ledger = l.ledger := congrArg SharedQueue.ledger shared
  have producer := Call.step_producer stepped
  refine ⟨by rw [ledger]; exact h.ordered, ?_, by rw [ledger]; exact h.lost_le,
    by rw [ingest]; exact h.begun, ?_⟩
  · intro none
    rw [ledger]
    apply h.fresh
    rcases producer with ⟨_, same⟩ | ⟨_, _, _, more⟩ | ⟨_, _, _, same⟩
    · rw [← same, none]
    · omega
    · rw [← same, none]
  · intro task stream frames now goes
    rw [ledger, ingest]
    rcases producer with ⟨same, _⟩ | ⟨_, opened, spawned, _⟩ | ⟨_, _, absent, _⟩
    · exact h.going _ _ _ (same.symm.trans now) goes
    · cases spawned.symm.trans now
      obtain ⟨none, outside⟩ := early (by simp [opened])
      have captured := h.fresh none
      have lost := booked.lost_le_captured
      rw [captured, List.length_nil] at lost
      rw [captured, outside]
      exact ⟨rfl, Nat.le_zero.mp lost⟩
    · cases absent.symm.trans now

theorem Numbered.of_eq (h : l.Numbered) (captured : l'.ledger.captured = l.ledger.captured)
    (lost : l'.ledger.lost = l.ledger.lost) (spawnings : l'.spawnings = l.spawnings)
    (ingest : l'.ingest = l.ingest) (producer : l'.session.producer = l.session.producer) :
    l'.Numbered where
  ordered := by rw [captured, h.ordered]
  fresh := by rw [captured, spawnings]; exact h.fresh
  lost_le := by rw [lost]; exact h.lost_le
  begun := by rw [ingest]; exact h.begun
  going := by rw [captured, lost, ingest, producer]; exact h.going

theorem Numbered.acted (h : l.Numbered) (orderly : Orderly l l.calls) (booked : l.Booked)
    (acted : l.Acted l') : l'.Numbered := by
  cases acted with
  | producer produced => exact h.produced orderly produced
  | call stepped was now =>
    have before := orderly.perm was
    have early : _ ≠ [] → l.spawnings = 0 ∧ l.ingest = none := fun opened =>
      ⟨(before.alone opened).1, before.outside (before.alone opened).2⟩
    exact (h.call_step booked early stepped).of_eq rfl rfl rfl rfl rfl
  | taking stepped was now =>
    have drained := Taking.step_drained stepped
    exact h.of_eq drained.frames drained.lost rfl rfl rfl
  | edited stepped =>
    have drained := Edit.step_drained stepped
    exact h.of_eq drained.frames drained.lost rfl rfl rfl
  | beginCall | beginTaking | outside => exact h.of_eq rfl rfl rfl rfl rfl

/-! ## Whole runs -/

structure Accounted (l : LiveSession σ τ) : Prop where
  orderly : Orderly l l.calls
  booked : l.Booked
  numbered : l.Numbered

theorem Accounted.start {s : Session σ τ} (fresh : s.Fresh) (world : σ) :
    (ofSession s world).Accounted where
  orderly := .start fresh world
  booked := .start fresh world
  numbered := .start fresh world

theorem Accounted.run {actions : List (LiveAction σ)} (h : l.Accounted)
    (ran : l.run actions = some l') : l'.Accounted := by
  refine holds_of_run (fun m m' before acted => ?_) h ran
  exact ⟨before.orderly.acted acted, before.booked.acted acted,
    before.numbered.acted before.orderly before.booked acted⟩

/-- While the producer is outside its work on a frame and no consumer is at the queue: the captured
packets have the numbers from zero on, each of them is in one class, the counters show the sizes of
the classes, and one packet at most is lost to a predicate or a strategy that broke, which ends the
capture. The steps of the work on a frame come to `Session.ingest` (`Session.ingest_alone`), and all
that is executed is such a run (`LoggedSession.exists_run_of_executed`, `Session.Executed.balance`). -/
theorem packets_accounted {config : Config} {backend : Backend σ τ} {before world : σ}
    {session : Session σ τ} {actions : List (LiveAction σ)}
    (made : (Session.create config backend before).value.1 = .ok (.ok session))
    (ran : (ofSession session world).run actions = some l)
    (few : l.ledger.captured.length < 2 ^ 64) (outside : l.ingest = none)
    (away : ∀ t ∈ l.takings, t.atQueue = false) :
    let ledger := l.ledger
    let metrics := l.session.queue.metrics
    let resident := l.session.queue.queue.packets
    ledger.captured.map Packet.sequence = List.range ledger.captured.length ∧
    ((ledger.filtered ++ ledger.unjudged ++ resident ++ ledger.handed ++ ledger.rejected ++
      ledger.undecided).map Packet.sequence ++ ledger.dropped).Perm
        (List.range ledger.captured.length) ∧
    ledger.handed.Perm (l.takings.flatMap Taking.packets) ∧
    (metrics.captured.toNat = ledger.captured.length ∧
      metrics.filtered.toNat = ledger.filtered.length ∧
      metrics.dequeued.toNat = ledger.handed.length ∧
      metrics.dropped.toNat = ledger.dropped.length ∧
      metrics.rejected.toNat = ledger.rejected.length) ∧
    metrics.captured.toNat =
      metrics.filtered.toNat + metrics.enqueued.toNat + ledger.unjudged.length ∧
    metrics.enqueued.toNat = resident.length + metrics.dequeued.toNat + metrics.dropped.toNat +
      metrics.rejected.toNat + ledger.undecided.length ∧
    ledger.unjudged.length + ledger.undecided.length ≤ 1 ∧
    (0 < ledger.unjudged.length + ledger.undecided.length →
      ∀ task stream frames, l.session.producer = .active task stream frames →
        task.captures = false) := by
  intro ledger metrics resident
  have fresh := Session.create_fresh made
  have accounted : l.Accounted := (Accounted.start fresh world).run ran
  have books : Balanced l.shared [] l.takings := accounted.booked.balanced outside
  have numbered := accounted.numbered
  obtain ⟨captured, dropped, rejected, dequeued, enqueued⟩ :
      metrics.captured.toNat = ledger.captured.length ∧
      metrics.dropped.toNat = ledger.dropped.length ∧
      metrics.rejected.toNat = ledger.rejected.length ∧
      metrics.dequeued.toNat = ledger.handed.length ∧
      metrics.enqueued.toNat = resident.length + ledger.handed.length + ledger.dropped.length +
        ledger.rejected.length + ledger.undecided.length :=
    books.counters_of_quiet few (by simp) away
  have filtered : metrics.filtered.toNat = ledger.filtered.length := by
    have tally := books.filtered
    rw [List.flatMap_nil, List.append_nil] at tally
    exact (books.toNat_value few (c := .filtered) (by decide)).trans tally
  have size : ledger.captured.length = ledger.filtered.length + ledger.unjudged.length +
      resident.length + ledger.handed.length + ledger.rejected.length + ledger.undecided.length +
      0 + ledger.dropped.length := books.length_captured
  refine ⟨numbered.ordered, ?_, books.received,
    ⟨captured, filtered, dequeued, dropped, rejected⟩, ?_, ?_, numbered.lost_le, ?_⟩
  · have fates := books.fates
    rw [show l.shared.ledger = l.ledger from rfl, numbered.ordered] at fates
    simpa [SharedQueue.accounted, shared] using fates.symm
  · omega
  · omega
  · intro lost task stream frames on
    by_contra goes
    obtain ⟨_, none⟩ := numbered.going _ _ _ on (by simpa using goes)
    rw [outside] at none
    exact absurd none (Nat.ne_of_gt lost)

/-- Six frames at a queue of one slot, one for each class: the strategy breaks over the last. -/
theorem packets_accounted_of_six :
    let noOne : Predicate := ⟨"no-one", fun p => .ok (p.sequence ≠ 1)⟩
    let breaks : DropStrategy := ⟨"breaks", fun _ _ _ => .error (.ofText "no")⟩
    let actions : List (LiveAction Script) :=
      [.edit (.addFilter noOne), .start] ++ List.replicate 6 (.call 0) ++
        List.replicate 31 .produce ++ [.beginTaking false] ++ List.replicate 4 (.take 0) ++
        List.replicate 12 .produce ++ [.edit (.setStrategy (.always .rejectAndSignal))] ++
        List.replicate 12 .produce ++ [.edit (.setStrategy breaks)] ++ List.replicate 15 .produce
    ∃ session l, (Session.create
        { capture := { interface := some (.name "eth0") }, queue := { capacity := 1 } }
        (ScriptedHost.backend { interfaces := .ofList ["eth0"] }) {}).value.1 = .ok (.ok session) ∧
      (ofSession session { readings := List.replicate 6 (.frame []) }).run actions = some l ∧
      l.ledger.captured.length < 2 ^ 64 ∧ l.ingest = none ∧
      (∀ t ∈ l.takings, t.atQueue = false) ∧
      l.ledger.captured.map Packet.sequence = List.range 6 ∧
      l.session.queue.queue.packets.map Packet.sequence = [3] ∧
      l.ledger.dropped = [0] ∧ l.ledger.filtered.map Packet.sequence = [1] ∧
      l.ledger.handed.map Packet.sequence = [2] ∧ l.ledger.rejected.map Packet.sequence = [4] ∧
      l.ledger.undecided.map Packet.sequence = [5] ∧
      l.session.queue.metrics.captured.toNat = l.session.queue.metrics.filtered.toNat +
        l.session.queue.metrics.enqueued.toNat + l.ledger.unjudged.length ∧
      l.ledger.unjudged.length + l.ledger.undecided.length ≤ 1 := by
  intro noOne breaks actions
  obtain ⟨session, made⟩ : ∃ session, (Session.create
      { capture := { interface := some (.name "eth0") }, queue := { capacity := 1 } }
      (ScriptedHost.backend { interfaces := .ofList ["eth0"] }) {}).value.1 = .ok (.ok session) :=
    ⟨_, rfl⟩
  obtain ⟨l, ran, seen⟩ : ∃ l, (ofSession session { readings := List.replicate 6 (.frame []) }).run
      actions = some l ∧ (l.ingest.isNone, l.takings.map Taking.atQueue, [
        l.ledger.captured.map Packet.sequence, l.session.queue.queue.packets.map Packet.sequence,
        l.ledger.dropped, l.ledger.filtered.map Packet.sequence,
        l.ledger.handed.map Packet.sequence, l.ledger.rejected.map Packet.sequence,
        l.ledger.undecided.map Packet.sequence]) =
      (true, [false], [List.range 6, [3], [0], [1], [2], [4], [5]]) := by
    rw [← Option.map_eq_some_iff]
    cases made
    decide +kernel
  simp only [Prod.mk.injEq, List.cons.injEq, and_true] at seen
  obtain ⟨outside, away, captured, resident, dropped, filtered, handed, rejected, undecided⟩ := seen
  have few : l.ledger.captured.length < 2 ^ 64 := by
    rw [← List.length_map Packet.sequence, captured]
    decide
  have outside : l.ingest = none := by simpa using outside
  have away : ∀ t ∈ l.takings, t.atQueue = false := by
    intro t member
    have seen := List.mem_map_of_mem (f := Taking.atQueue) member
    rw [away] at seen
    exact List.mem_singleton.mp seen
  obtain ⟨_, _, _, _, upstream, _, lost, _⟩ := packets_accounted made ran few outside away
  exact ⟨session, l, made, ran, few, outside, away, captured, resident, dropped, filtered, handed,
    rejected, undecided, upstream, lost⟩

end LiveSession
end CaptureQueue
