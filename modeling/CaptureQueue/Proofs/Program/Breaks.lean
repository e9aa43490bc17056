import CaptureQueue.Proofs.Program.Begun
import CaptureQueue.Proofs.Threads.Snapshot

/-! Where a capture breaks: at a queue that cannot be allocated and at an end that the clock cannot
tell, and nowhere else. It returns otherwise, if anything ends it at all. -/

set_option autoImplicit false
namespace CaptureQueue

variable {w w' : Workplace}

/-! ## The ways of a capture -/

namespace Capture

variable {e : Surroundings} {o : RunOptions} {named : Option String} {s : HostSession}

def TooLate (e : Surroundings) (o : RunOptions) : Prop :=
  ∃ seconds, o.duration = some seconds ∧ RunOptions.latestSecond < e.uptime + seconds

/-- Neither a duration nor an event of the host ends the capture. -/
def Endless (o : RunOptions) (h : Host) : Prop :=
  o.duration = none ∧ ∀ event ∈ h.events, event.ends = false

theorem deadline_of_tooLate (late : TooLate e o) :
    o.deadline e.uptime = .error (.ofText "overflow when adding duration to instant") := by
  obtain ⟨seconds, set, late⟩ := late
  simp only [RunOptions.deadline, set, if_pos late]

theorem deadline_of_not_tooLate (soon : ¬ TooLate e o) :
    o.deadline e.uptime = .ok (o.duration.map (1000 * ·)) := by
  unfold RunOptions.deadline
  cases set : o.duration with
  | none => rfl
  | some seconds => exact if_neg fun late => soon ⟨seconds, set, late⟩

theorem ending_eq_none_iff (begun : s.Begun) (h : Host) :
    (ending o s (o.duration.map (1000 * ·)) h).outcome? = none ↔ Endless o h := by
  have ends := Schedule.outcome?_isSome_iff begun o.consumers (o.duration.map (1000 * ·))
    (1000 * o.statsInterval) o.consumeDelay h
  rw [← not_iff_not, ← ne_eq, ← Option.isSome_iff_ne_none]
  refine ends.trans ?_
  cases set : o.duration <;> simp [Endless, set]

theorem Begins.run_cases (begun : Begins e o named w s w') :
    TooLate e o ∧ (run e o named).Breaks w (.ofText "overflow when adding duration to instant") ∨
    ¬ TooLate e o ∧ ¬ Endless o w.host ∧ (run e o named).Returns w ∨
    ¬ TooLate e o ∧ Endless o w.host ∧ (run e o named w).value.1 = .error .endless := by
  obtain ⟨just, events⟩ := begun.session
  by_cases late : TooLate e o
  · refine .inl ⟨late, ?_⟩
    rw [Job.Breaks, begun.value_run, deadline_of_tooLate late]
  right
  have value : (run e o named w).value.1 = _ := begun.value_run
  rw [deadline_of_not_tooLate late] at value
  dsimp only at value
  rw [value_watch] at value
  have goesOn := ending_eq_none_iff (o := o) just w'.host
  cases ended : (ending o s (o.duration.map (1000 * ·)) w'.host).outcome? with
  | none =>
    rw [ended] at value goesOn
    have endless := goesOn.mp rfl
    rw [Endless, events] at endless
    exact .inr ⟨late, endless, value⟩
  | some outcome =>
    rw [ended] at value goesOn
    refine .inl ⟨late, fun endless => ?_, ?_⟩
    · rw [Endless, ← events] at endless
      cases goesOn.mpr endless
    · cases outcome with
      | ok _ => exact ⟨.ok (), value⟩
      | error f => exact ⟨.error { contexts := ["Capture source failed"], cause := .capture f }, value⟩

theorem Endless.not_tooLate {h : Host} (endless : Endless o h) : ¬ TooLate e o := by
  rintro ⟨seconds, set, -⟩
  cases endless.1.symm.trans set

end Capture

/-! ## Cuts and sums -/

theorem Datalink.read_ne_broken (c : Channel) (h : Host) (fault : Fault) :
    (read c h).value.1 ≠ .broken fault := by
  intro broke
  cases isOpen : c.isOpen with
  | false =>
    have value := congrArg Prod.fst (read_closed (h := h) isOpen)
    rw [show (backend.read c h).value.1 = .broken fault from broke] at value
    cases value
  | true =>
    have value := congrArg Prod.fst (read_open (h := h) isOpen)
    rw [show (backend.read c h).value.1 = .broken fault from broke] at value
    dsimp only at value
    split at value
    · cases value
    · split at value <;> cases value

/-- The sums that a report makes of the counters do not wrap. -/
def Metrics.SumsExactly (m : Metrics) : Prop :=
  (m.dequeued + m.dropped).toNat = m.dequeued.toNat + m.dropped.toNat ∧
  (m.dequeued + m.dropped + m.rejected).toNat =
    m.dequeued.toNat + m.dropped.toNat + m.rejected.toNat ∧
  (m.dropped + m.rejected).toNat = m.dropped.toNat + m.rejected.toNat

theorem Metrics.sumsExactly_of_le {m : Metrics}
    (covered : m.dequeued.toNat + m.dropped.toNat + m.rejected.toNat ≤ m.enqueued.toNat) :
    m.SumsExactly := by
  have below := m.enqueued.toNat_lt
  simp only [SumsExactly, UInt64.toNat_add]
  omega

namespace Program

/-- The command that captures breaks in two ways: a queue that cannot be allocated, though the
configuration is valid, and an end that the clock cannot tell. Otherwise it returns, with a result or
a failure that is told, unless neither a duration nor an event ends it. Frames are cut and previewed
within their bytes, and no sum of counters in a report wraps, however the threads take turns. -/
theorem capture_breaks_only_out_of_range (e : Surroundings) (o : RunOptions) (globals : GlobalOptions)
    (w : Workplace) :
    let command := execute e ⟨globals, .run o⟩
    let large := Capture.TooLarge e o globals.config w
    let begun := ∃ s w', Capture.Begins e o globals.config w s w'
    (∀ fault, command.Breaks w fault ↔
      large ∧ fault = .ofText "capacity overflow" ∨
      begun ∧ Capture.TooLate e o ∧ fault = .ofText "overflow when adding duration to instant") ∧
    ((command w).value.1 = .error .endless ↔ begun ∧ Capture.Endless o w.host) ∧
    (command.Returns w ↔
      ¬ large ∧ (begun → ¬ Capture.TooLate e o ∧ ¬ Capture.Endless o w.host)) ∧
    (∀ c h fault, (Datalink.read c h).value.1 ≠ .broken fault) ∧
    (∀ s w' deadline, Capture.Begins e o globals.config w s w' →
      ∀ c ∈ (Capture.ending o s deadline w'.host).consumers, c.task ≠ .broken) ∧
    ∀ (filters : FilterChain) (queue : PacketQueue) (actions : List TrafficAction) (t : Traffic),
      0 < queue.capacity → queue.packets = [] →
      (Traffic.ofQueue filters queue).run actions = some t →
      t.shared.ledger.captured.length < 2 ^ 64 →
      ∀ s ∈ t.snapshots, s.left = [] → s.copy.SumsExactly := by
  intro command large begun
  -- A failure, a queue that is too large, or a capture that begins and has three ends.
  have ways : (∃ f, (command w).value.1 = .error (.failed f)) ∨ large ∨ begun :=
    Capture.run_cases e o globals.config w
  have broke (h : large) : command.Breaks w (.ofText "capacity overflow") := h.value_run
  refine ⟨fun fault => ⟨fun h => ?_, ?_⟩, ⟨fun h => ?_, ?_⟩, ⟨fun h => ?_, ?_⟩,
    Datalink.read_ne_broken, ?_, ?_⟩
  · obtain ⟨f, failed⟩ | oversized | ⟨s, w', b⟩ := ways
    · cases h.symm.trans failed
    · cases h.symm.trans (broke oversized)
      exact .inl ⟨oversized, rfl⟩
    · obtain ⟨late, overflow⟩ | ⟨-, -, returns⟩ | ⟨-, -, endless⟩ := b.run_cases
      · cases h.symm.trans overflow
        exact .inr ⟨⟨s, w', b⟩, late, rfl⟩
      · exact absurd h (returns.not_breaks fault)
      · cases h.symm.trans endless
  · rintro (⟨oversized, rfl⟩ | ⟨⟨s, w', b⟩, late, rfl⟩)
    · exact broke oversized
    · obtain ⟨-, overflow⟩ | ⟨soon, -⟩ | ⟨soon, -⟩ := b.run_cases
      · exact overflow
      · exact absurd late soon
      · exact absurd late soon
  · obtain ⟨f, failed⟩ | oversized | ⟨s, w', b⟩ := ways
    · cases h.symm.trans failed
    · cases h.symm.trans (broke oversized)
    · obtain ⟨-, overflow⟩ | ⟨-, -, returns⟩ | ⟨-, endless, -⟩ := b.run_cases
      · cases h.symm.trans overflow
      · exact absurd h returns.ne_endless
      · exact ⟨⟨s, w', b⟩, endless⟩
  · rintro ⟨⟨s, w', b⟩, endless⟩
    obtain ⟨late, -⟩ | ⟨-, ends, -⟩ | ⟨-, -, value⟩ := b.run_cases
    · exact absurd late endless.not_tooLate
    · exact absurd endless ends
    · exact value
  · refine ⟨fun oversized => h.not_breaks _ (broke oversized), fun ⟨s, w', b⟩ => ?_⟩
    obtain ⟨-, overflow⟩ | ⟨soon, ends, -⟩ | ⟨-, -, value⟩ := b.run_cases
    · exact absurd overflow (h.not_breaks _)
    · exact ⟨soon, ends⟩
    · exact absurd value h.ne_endless
  · rintro ⟨fits, goes⟩
    obtain ⟨f, failed⟩ | oversized | ⟨s, w', b⟩ := ways
    · exact ⟨.error f, failed⟩
    · exact absurd oversized fits
    · obtain ⟨soon, ends⟩ := goes ⟨s, w', b⟩
      obtain ⟨late, -⟩ | ⟨-, -, returns⟩ | ⟨-, endless, -⟩ := b.run_cases
      · exact absurd late soon
      · exact returns
      · exact absurd endless ends
  · intro s w' deadline begun
    obtain ⟨q, world, _, _, same⟩ := begun.among_threads deadline
    exact same.whole
  · intro filters queue actions t positive empty ran few s member complete
    have consistent := (Traffic.ofQueue_consistent filters positive empty).run ran
    exact Metrics.sumsExactly_of_le ((consistent.sound few s member).enqueued (by simp [complete]))

/-- Two command lines that are taken, with valid configurations, on a host with the interface. One
breaks for the largest capacity there is, before the capture, and one for the longest duration,
after its start. -/
theorem accepted_capture_breaks :
    let w : Workplace := { host := { adapters := [{ name := "eth0", flags := 1 }] } }
    let large : RunOptions := { interface := some "eth0", capacity := some 18446744073709551615 }
    let long : RunOptions := { interface := some "eth0", duration := some 18446744073709551615 }
    (Invocation.ofWords (fun _ => none) ["run", "-i", "eth0", "--capacity", "18446744073709551615"] =
        .ok ⟨{}, .run large⟩ ∧
      (large.override {}).validate = .ok () ∧
      (execute {} ⟨{}, .run large⟩).Breaks w (.ofText "capacity overflow")) ∧
    Invocation.ofWords (fun _ => none) ["run", "-i", "eth0", "-d", "18446744073709551615"] =
        .ok ⟨{}, .run long⟩ ∧
      (long.override {}).validate = .ok () ∧
      (execute {} ⟨{}, .run long⟩).Breaks w (.ofText "overflow when adding duration to instant") := by
  unfold Job.Breaks
  decide +kernel

end Program
end CaptureQueue
