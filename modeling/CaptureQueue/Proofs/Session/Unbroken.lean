import CaptureQueue.Proofs.Session.Failure

/-! Captures whose predicates and strategies never break. No fault comes up in their work on frames,
whatever calls are made and whichever filters and strategies of that kind are set. -/

set_option autoImplicit false
namespace CaptureQueue

variable {σ τ : Type}

def Predicate.Answers (p : Predicate) : Prop := ∀ packet, ∃ admitted, p.admits packet = .ok admitted

def DropStrategy.Decides (s : DropStrategy) : Prop :=
  ∀ turn view packet, ∃ decision, s.onOverflow turn view packet = .ok decision

theorem FilterChain.firstRejection_ok {c : FilterChain} (answers : ∀ entry ∈ c.entries, entry.2.Answers)
    (packet : Packet) : ∃ rejection, c.firstRejection packet = .ok rejection := by
  unfold firstRejection
  generalize c.entries = entries at answers
  induction entries with
  | nil => exact ⟨none, rfl⟩
  | cons entry rest ih =>
    obtain ⟨id, p⟩ := entry
    obtain ⟨admitted, answer⟩ : ∃ admitted, p.admits packet = .ok admitted :=
      answers (id, p) List.mem_cons_self packet
    cases admitted with
    | true =>
      simp only [findRejection, answer]
      exact ih fun entry member => answers entry (List.mem_cons_of_mem _ member)
    | false => exact ⟨some (id, p.name), by simp only [findRejection, answer]⟩

theorem PacketQueue.offer_ok {q : PacketQueue} (decides : q.strategy.Decides) (p : Packet) :
    ∃ offered, (q.offer p).2 = .ok offered := by
  unfold offer
  split
  · exact ⟨.accepted, rfl⟩
  · obtain ⟨decision, decided⟩ := decides q.consultations q.view p
    exact ⟨_, by rw [decided]⟩

theorem Ingest.step_guards {q q' : SharedQueue} {i i' : Ingest} (stepped : i.step q = some (q', i')) :
    q'.filters = q.filters ∧ q'.queue.queue.strategy = q.queue.queue.strategy := by
  cases i with
  | judge p =>
    simp only [step] at stepped
    split at stepped <;> cases stepped <;> exact ⟨rfl, rfl⟩
  | enter p =>
    simp only [step] at stepped
    split at stepped <;> cases stepped
    exact ⟨rfl, rfl⟩
  | decide p =>
    cases stepped
    exact ⟨rfl, PacketQueue.offer_strategy _ p⟩
  | settle | leave =>
    cases stepped
    rw [SharedQueue.countAll_eq]
    exact ⟨rfl, rfl⟩
  | capture | measure | dismiss | register | release =>
    cases stepped
    exact ⟨rfl, rfl⟩
  | done => cases stepped

/-- What keeps the work on frames from breaking. -/
structure LiveSession.Unbroken (l : LiveSession σ τ) : Prop where
  filters : ∀ entry ∈ l.session.filters.entries, entry.2.Answers
  strategy : l.session.queue.queue.strategy.Decides
  work : ∀ i, l.ingest = some i → i.fault? = none

def Edit.Sound : Edit → Prop
  | .addFilter p => p.Answers
  | .removeFilter _ => True
  | .setStrategy strategy => strategy.Decides

def LiveAction.Sound : LiveAction σ → Prop
  | .edit e => e.Sound
  | _ => True

theorem Edit.step_guards {q q' : SharedQueue} {e : Edit} (sound : e.Sound)
    (stepped : e.step q = some q') (filters : ∀ entry ∈ q.filters.entries, entry.2.Answers)
    (strategy : q.queue.queue.strategy.Decides) :
    (∀ entry ∈ q'.filters.entries, entry.2.Answers) ∧ q'.queue.queue.strategy.Decides := by
  cases e with
  | addFilter p =>
    cases stepped
    refine ⟨fun entry member => ?_, strategy⟩
    rcases List.mem_append.mp member with old | new
    · exact filters entry old
    · rw [List.mem_singleton.mp new]
      exact sound
  | removeFilter id =>
    cases stepped
    exact ⟨fun entry member => filters entry (List.mem_filter.mp member).1, strategy⟩
  | setStrategy other =>
    simp only [step] at stepped
    split at stepped <;> cases stepped
    exact ⟨filters, sound⟩

theorem Taking.step_guards {q q' : SharedQueue} {t t' : Taking} (stepped : t.step q = some (q', t')) :
    q'.filters = q.filters ∧ q'.queue.queue.strategy = q.queue.queue.strategy := by
  cases t with
  | enter all =>
    simp only [step] at stepped
    split at stepped <;> cases stepped
    exact ⟨rfl, rfl⟩
  | take all =>
    cases stepped
    cases all <;> exact ⟨rfl, rfl⟩
  | count n packets => cases n <;> cases stepped <;> exact ⟨rfl, rfl⟩
  | done => cases stepped

namespace LiveSession.Unbroken

variable {l l' : LiveSession σ τ}

theorem breaks (h : l.Unbroken) (i : Ingest) : i.breaks? l.shared = none := by
  cases i with
  | judge p =>
    obtain ⟨rejection, judged⟩ := FilterChain.firstRejection_ok h.filters p
    simp only [Ingest.breaks?, shared, judged]
  | decide p =>
    obtain ⟨offered, decided⟩ := PacketQueue.offer_ok h.strategy p
    simp only [Ingest.breaks?, shared, decided]
  | _ => rfl

theorem of_eq (h : l.Unbroken) (filters : l'.session.filters = l.session.filters)
    (strategy : l'.session.queue.queue.strategy = l.session.queue.queue.strategy)
    (ingest : l'.ingest = l.ingest) : l'.Unbroken :=
  ⟨by rw [filters]; exact h.filters, by rw [strategy]; exact h.strategy, by rw [ingest]; exact h.work⟩

theorem produced (h : l.Unbroken) (produced : l.Produced l') : l'.Unbroken := by
  cases produced with
  | turn | close => exact h.of_eq rfl rfl rfl
  | @work data stream frames q i on moved =>
    obtain ⟨filters, strategy⟩ := Ingest.step_guards moved
    refine ⟨?_, ?_, ?_⟩
    · rw [withShared, filters]
      exact h.filters
    · rw [withShared, strategy]
      exact h.strategy
    · intro j same
      cases same
      rw [Ingest.step_fault moved, h.breaks, Option.or_none]
      cases inside : l.ingest with
      | none => rfl
      | some j => exact h.work j inside
  | succeed | broke => exact ⟨h.filters, h.strategy, fun i inside => by cases inside⟩

theorem step {action : LiveAction σ} (h : l.Unbroken) (sound : action.Sound)
    (stepped : l.step action = some l') : l'.Unbroken := by
  cases action with
  | produce => exact h.produced (produced_of_produce stepped)
  | start | stop | beginTaking | outside =>
    cases stepped
    exact h.of_eq rfl rfl rfl
  | call index =>
    simp only [LiveSession.step, bind, Option.bind_eq_some_iff] at stepped
    obtain ⟨c, _, ⟨after, c'⟩, moved, same⟩ := stepped
    cases same
    obtain ⟨shared, ingest, _, _⟩ := Call.step_frame moved
    have filters : after.session.filters = l.session.filters := congrArg SharedQueue.filters shared
    have queue : after.session.queue = l.session.queue := congrArg SharedQueue.queue shared
    exact h.of_eq filters (by rw [queue]) ingest
  | take index =>
    simp only [LiveSession.step, bind, Option.bind_eq_some_iff] at stepped
    obtain ⟨t, _, ⟨q, t'⟩, moved, same⟩ := stepped
    cases same
    obtain ⟨filters, strategy⟩ := Taking.step_guards moved
    exact h.of_eq filters strategy rfl
  | edit e =>
    simp only [LiveSession.step, bind, Option.bind_eq_some_iff] at stepped
    obtain ⟨q, moved, same⟩ := stepped
    cases same
    obtain ⟨filters, strategy⟩ := Edit.step_guards sound moved h.filters h.strategy
    exact ⟨filters, strategy, h.work⟩

end LiveSession.Unbroken

/-! ## Configured captures -/

theorem Predicate.answers_ofRule (name : String) (rule : FilterRule) :
    (Predicate.ofRule name rule).Answers := fun _ => ⟨_, rfl⟩

theorem DropStrategy.decides_always (d : DropDecision) : (DropStrategy.always d).Decides :=
  fun _ _ _ => ⟨d, rfl⟩

theorem FilterChain.answers_ofList {ps : List Predicate} (answers : ∀ p ∈ ps, p.Answers) :
    ∀ entry ∈ (ofList ps).entries, entry.2.Answers := by
  have grown (c : FilterChain) (held : ∀ entry ∈ c.entries, entry.2.Answers) :
      ∀ entry ∈ (ps.foldl (fun c p => (c.add p).1) c).entries, entry.2.Answers := by
    induction ps generalizing c with
    | nil => exact held
    | cons p rest ih =>
      refine ih (fun q member => answers q (List.mem_cons_of_mem _ member)) _ fun entry member => ?_
      rcases List.mem_append.mp member with old | new
      · exact held entry old
      · rw [List.mem_singleton.mp new]
        exact answers p List.mem_cons_self
  exact grown empty fun entry member => by cases member

/-- A session as configured has rules for filters, and decides always the same. -/
theorem Session.unbroken {config : Config} {backend : Backend σ τ} {before : σ} {s : Session σ τ}
    (made : (create config backend before).value.1 = .ok (.ok s)) (world : σ) :
    (LiveSession.ofSession s world).Unbroken := by
  obtain ⟨_, _, _, rfl⟩ := create_eq_ok made
  refine ⟨FilterChain.answers_ofList ?_, DropStrategy.decides_always _,
    fun i inside => by cases inside⟩
  intro p member
  obtain ⟨f, _, rfl⟩ := List.mem_map.mp member
  exact Predicate.answers_ofRule f.name f.rule

end CaptureQueue
