import CaptureQueue.Proofs.Threads.Balance
import Mathlib.Data.List.Infix

/-! Snapshots of the counters, taken one load at a time while any number of threads ingest packets
and take them. Counters downstream are loaded before those upstream, so that a snapshot never shows
more packets gone than come. -/

set_option autoImplicit false
namespace CaptureQueue

namespace Counter

def loadOrder : List Counter :=
  [.dequeued, .dropped, .rejected, .enqueued, .filtered, .captured, .bytes, .highWater]

def load (live copy : Metrics) : Counter → Metrics
  | .captured => { copy with captured := live.captured }
  | .filtered => { copy with filtered := live.filtered }
  | .enqueued => { copy with enqueued := live.enqueued }
  | .dropped => { copy with dropped := live.dropped }
  | .rejected => { copy with rejected := live.rejected }
  | .dequeued => { copy with dequeued := live.dequeued }
  | .bytes => { copy with bytes := live.bytes }
  | .highWater => { copy with highWater := live.highWater }

theorem value_load_self (live copy : Metrics) (c : Counter) :
    c.value (c.load live copy) = c.value live := by
  cases c <;> rfl

theorem value_load_of_ne {live copy : Metrics} {c c' : Counter} (other : c' ≠ c) :
    c'.value (c.load live copy) = c'.value copy := by
  cases c <;> cases c' <;> first | rfl | contradiction

/-- The counters of what can become of the packets that a counter counts. -/
def downstream : Counter → List Counter
  | .captured => [.filtered, .enqueued]
  | .enqueued => [.dequeued, .dropped, .rejected]
  | _ => []

theorem mem_left_of_downstream {c c' : Counter} {left : List Counter}
    (ordered : c' :: left <:+ loadOrder) (below : c' ∈ c.downstream) : c ∈ left := by
  have each : ∀ order ∈ loadOrder.tails, ∀ first ∈ order.head?, first ∈ c.downstream →
      c ∈ order.tail := by
    cases c <;> decide
  exact each (c' :: left) ((List.mem_tails _ _).mpr ordered) c' rfl below

end Counter

structure Snapshot where
  copy : Metrics := {}
  left : List Counter := Counter.loadOrder
deriving DecidableEq

namespace Snapshot

def step (live : Metrics) (s : Snapshot) : Option Snapshot :=
  match s.left with
  | [] => none
  | c :: left => some { copy := c.load live s.copy, left := left }

end Snapshot

structure Traffic where
  shared : SharedQueue
  ingests : List Ingest := []
  takings : List Taking := []
  snapshots : List Snapshot := []

inductive TrafficAction where
  | beginIngest (p : Packet)
  | beginTaking (all : Bool)
  | beginSnapshot
  | ingest (index : Nat)
  | take (index : Nat)
  | load (index : Nat)
  | edit (e : Edit)

namespace Traffic

def ofQueue (filters : FilterChain) (queue : PacketQueue) : Traffic :=
  { shared := { filters := filters, queue := { queue := queue } } }

def step (t : Traffic) : TrafficAction → Option Traffic
  | .beginIngest p => some { t with ingests := t.ingests ++ [.capture p] }
  | .beginTaking all => some { t with takings := t.takings ++ [.enter all] }
  | .beginSnapshot => some { t with snapshots := t.snapshots ++ [{}] }
  | .ingest index => do
    let (shared, i) ← (← t.ingests[index]?).step t.shared
    return { t with shared := shared, ingests := t.ingests.set index i }
  | .take index => do
    let (shared, k) ← (← t.takings[index]?).step t.shared
    return { t with shared := shared, takings := t.takings.set index k }
  | .load index => do
    let s ← (← t.snapshots[index]?).step t.shared.queue.metrics
    return { t with snapshots := t.snapshots.set index s }
  | .edit e => do
    return { t with shared := ← e.step t.shared }

def run (t : Traffic) (actions : List TrafficAction) : Option Traffic := actions.foldlM step t

end Traffic

namespace Snapshot

/-- What a snapshot in the making owes to the counters, told by the updates made so far. -/
structure Sound (s : Snapshot) (updates : List MetricUpdate) : Prop where
  ordered : s.left <:+ Counter.loadOrder
  below : ∀ c : Counter, c.CountsEvents → (c.value s.copy).toNat ≤ c.tally updates
  enqueued : Counter.enqueued ∉ s.left →
    s.copy.dequeued.toNat + s.copy.dropped.toNat + s.copy.rejected.toNat ≤ s.copy.enqueued.toNat
  captured : Counter.captured ∉ s.left →
    s.copy.filtered.toNat + s.copy.enqueued.toNat ≤ s.copy.captured.toNat

theorem Sound.new (updates : List MetricUpdate) : Sound {} updates where
  ordered := List.suffix_refl _
  below := by
    intro c _
    cases c <;> exact Nat.zero_le _
  enqueued := by decide
  captured := by decide

-- Counters only grow.
theorem Sound.grow {s : Snapshot} {updates : List MetricUpdate} (h : s.Sound updates)
    (more : List MetricUpdate) : s.Sound (updates ++ more) :=
  ⟨h.ordered, fun c counts => by
    have := h.below c counts
    rw [Counter.tally_append]
    omega, h.enqueued, h.captured⟩

-- The load of the enqueued packets comes after those of all that can become of them, and the load
-- of the captured ones last.
theorem Sound.step {s s' : Snapshot} {shared : SharedQueue} {ingests : List Ingest}
    {takings : List Taking} (h : s.Sound shared.ledger.updates) (books : Balanced shared ingests takings)
    (few : shared.ledger.captured.length < 2 ^ 64)
    (stepped : s.step shared.queue.metrics = some s') : s'.Sound shared.ledger.updates := by
  obtain ⟨copy, left⟩ := s
  obtain ⟨ordered, below, enqueued, captured⟩ := h
  cases left with
  | nil => cases stepped
  | cons c left =>
    cases stepped
    have suffix : left <:+ Counter.loadOrder := (List.suffix_cons c left).trans ordered
    have dequeuedBelow := below .dequeued (by decide)
    have droppedBelow := below .dropped (by decide)
    have rejectedBelow := below .rejected (by decide)
    have enqueuedBelow := below .enqueued (by decide)
    have filteredBelow := below .filtered (by decide)
    have enqueuedNow := books.toNat_value few (c := .enqueued) (by decide)
    have capturedNow := books.toNat_value few (c := .captured) (by decide)
    have upstream := books.captured_covers
    have downstream := books.enqueued_covers
    simp only [Counter.value] at dequeuedBelow droppedBelow rejectedBelow enqueuedBelow
    simp only [Counter.value] at filteredBelow enqueuedNow capturedNow
    let live := shared.queue.metrics
    refine ⟨suffix, ?_, ?_, ?_⟩
    · intro c' counts
      by_cases same : c' = c
      · subst same
        rw [Counter.value_load_self]
        exact Nat.le_of_eq (books.toNat_value few counts)
      · rw [Counter.value_load_of_ne same]
        exact below c' counts
    · intro loaded
      by_cases now : c = .enqueued
      · subst now
        simp only [Counter.load]
        omega
      -- what is loaded after the enqueued packets is none of what can become of them
      · have kept : ∀ c' ∈ Counter.enqueued.downstream, c' ≠ c := fun c' member same =>
          loaded (Counter.mem_left_of_downstream ordered (same ▸ member))
        have dequeuedKept : (c.load live copy).dequeued = copy.dequeued :=
          Counter.value_load_of_ne (kept .dequeued (by decide))
        have droppedKept : (c.load live copy).dropped = copy.dropped :=
          Counter.value_load_of_ne (kept .dropped (by decide))
        have rejectedKept : (c.load live copy).rejected = copy.rejected :=
          Counter.value_load_of_ne (kept .rejected (by decide))
        have enqueuedKept : (c.load live copy).enqueued = copy.enqueued :=
          Counter.value_load_of_ne (Ne.symm now)
        rw [dequeuedKept, droppedKept, rejectedKept, enqueuedKept]
        exact enqueued (by simp [loaded, Ne.symm now])
    · intro loaded
      by_cases now : c = .captured
      · subst now
        simp only [Counter.load]
        omega
      · have kept : ∀ c' ∈ Counter.captured.downstream, c' ≠ c := fun c' member same =>
          loaded (Counter.mem_left_of_downstream ordered (same ▸ member))
        have filteredKept : (c.load live copy).filtered = copy.filtered :=
          Counter.value_load_of_ne (kept .filtered (by decide))
        have enqueuedKept : (c.load live copy).enqueued = copy.enqueued :=
          Counter.value_load_of_ne (kept .enqueued (by decide))
        have capturedKept : (c.load live copy).captured = copy.captured :=
          Counter.value_load_of_ne (Ne.symm now)
        rw [filteredKept, enqueuedKept, capturedKept]
        exact captured (by simp [loaded, Ne.symm now])

end Snapshot

/-! ## Growth -/

namespace SharedQueue

/-- How one state comes after another: counters are only added to, and packets only captured. -/
def Precedes (s s' : SharedQueue) : Prop :=
  (∃ more, s'.ledger.updates = s.ledger.updates ++ more) ∧
    s.ledger.captured.length ≤ s'.ledger.captured.length

theorem precedes_countAll (s : SharedQueue) (us : List MetricUpdate) : s.Precedes (s.countAll us) := by
  rw [countAll_eq]
  exact ⟨⟨us, rfl⟩, Nat.le_refl _⟩

theorem precedes_of_eq {s s' : SharedQueue} (updates : s'.ledger.updates = s.ledger.updates)
    (captured : s'.ledger.captured = s.ledger.captured) : s.Precedes s' :=
  ⟨⟨[], by simp [updates]⟩, Nat.le_of_eq (congrArg List.length captured.symm)⟩

end SharedQueue

theorem Ingest.step_precedes {s s' : SharedQueue} {i i' : Ingest} (stepped : i.step s = some (s', i')) :
    s.Precedes s' := by
  cases i with
  | capture p =>
    cases stepped
    exact ⟨⟨[.captured], rfl⟩, by simp [SharedQueue.capture, SharedQueue.count]⟩
  | measure p => cases stepped; exact s.precedes_countAll [_]
  | judge p =>
    simp only [step] at stepped
    split at stepped <;> cases stepped <;> exact SharedQueue.precedes_of_eq rfl rfl
  | dismiss => cases stepped; exact s.precedes_countAll [_]
  | enter p =>
    simp only [step] at stepped
    split at stepped <;> cases stepped
    exact SharedQueue.precedes_of_eq rfl rfl
  | register p => cases stepped; exact s.precedes_countAll [_]
  | decide p => cases stepped; exact SharedQueue.precedes_of_eq rfl rfl
  | settle asked outcome => cases stepped; exact s.precedes_countAll _
  | release outcome => cases stepped; exact SharedQueue.precedes_of_eq rfl rfl
  | leave outcome => cases stepped; exact s.precedes_countAll _
  | done result => cases stepped

theorem Taking.step_precedes {s s' : SharedQueue} {k k' : Taking} (stepped : k.step s = some (s', k')) :
    s.Precedes s' := by
  cases k with
  | enter all =>
    simp only [step] at stepped
    split at stepped <;> cases stepped
    exact SharedQueue.precedes_of_eq rfl rfl
  | take all => cases stepped; exact SharedQueue.precedes_of_eq rfl rfl
  | count n packets =>
    cases n with
    | zero => cases stepped; exact SharedQueue.precedes_of_eq rfl rfl
    | succ n => cases stepped; exact s.precedes_countAll [_]
  | done packets => cases stepped

theorem Edit.step_precedes {s s' : SharedQueue} {e : Edit} (stepped : e.step s = some s') :
    s.Precedes s' := by
  cases e with
  | addFilter p => cases stepped; exact SharedQueue.precedes_of_eq rfl rfl
  | removeFilter id => cases stepped; exact SharedQueue.precedes_of_eq rfl rfl
  | setStrategy strategy =>
    simp only [step] at stepped
    split at stepped <;> cases stepped
    exact SharedQueue.precedes_of_eq rfl rfl

/-! ## Traffic -/

namespace Traffic

/-- The books are balanced, and unless a counter may have wrapped every snapshot is sound. -/
structure Consistent (t : Traffic) : Prop where
  balanced : Balanced t.shared t.ingests t.takings
  sound : t.shared.ledger.captured.length < 2 ^ 64 →
    ∀ s ∈ t.snapshots, s.Sound t.shared.ledger.updates

theorem ofQueue_consistent (filters : FilterChain) {queue : PacketQueue} (positive : 0 < queue.capacity)
    (empty : queue.packets = []) : (ofQueue filters queue).Consistent :=
  ⟨.start filters positive empty, fun _ s member => by cases member⟩

theorem Consistent.sound_of_precedes {t : Traffic} {shared : SharedQueue} (h : t.Consistent)
    (later : t.shared.Precedes shared) (few : shared.ledger.captured.length < 2 ^ 64) :
    ∀ s ∈ t.snapshots, s.Sound shared.ledger.updates := by
  obtain ⟨⟨more, grown⟩, captured⟩ := later
  intro s member
  rw [grown]
  exact (h.sound (by omega) s member).grow more

theorem Consistent.step {t t' : Traffic} {action : TrafficAction} (h : t.Consistent)
    (stepped : t.step action = some t') : t'.Consistent := by
  cases action with
  | beginIngest p =>
    cases stepped
    have begun := h.balanced.begin_ingest p
    exact ⟨begun.perm (List.perm_append_singleton _ _).symm (.refl _), h.sound⟩
  | beginTaking all =>
    cases stepped
    have begun := h.balanced.begin_taking all
    exact ⟨begun.perm (.refl _) (List.perm_append_singleton _ _).symm, h.sound⟩
  | beginSnapshot =>
    cases stepped
    refine ⟨h.balanced, fun few s member => ?_⟩
    rcases List.mem_append.mp member with old | new
    · exact h.sound few s old
    · cases List.mem_singleton.mp new
      exact .new _
  | ingest index =>
    simp only [Traffic.step, bind, Option.bind_eq_some_iff] at stepped
    obtain ⟨i, found, ⟨shared, i'⟩, moved, same⟩ := stepped
    cases same
    obtain ⟨others, before, after⟩ := exists_others found
    have balanced := (h.balanced.perm before (.refl _)).ingest_step moved
    exact ⟨balanced.perm (after i').symm (.refl _), h.sound_of_precedes (Ingest.step_precedes moved)⟩
  | take index =>
    simp only [Traffic.step, bind, Option.bind_eq_some_iff] at stepped
    obtain ⟨k, found, ⟨shared, k'⟩, moved, same⟩ := stepped
    cases same
    obtain ⟨others, before, after⟩ := exists_others found
    have balanced := (h.balanced.perm (.refl _) before).taking_step moved
    exact ⟨balanced.perm (.refl _) (after k').symm, h.sound_of_precedes (Taking.step_precedes moved)⟩
  | load index =>
    simp only [Traffic.step, bind, Option.bind_eq_some_iff] at stepped
    obtain ⟨s, found, s', moved, same⟩ := stepped
    cases same
    refine ⟨h.balanced, fun few other member => ?_⟩
    rcases List.mem_or_eq_of_mem_set member with old | rfl
    · exact h.sound few other old
    · exact (h.sound few s (List.mem_of_getElem? found)).step h.balanced few moved
  | edit e =>
    simp only [Traffic.step, bind, Option.bind_eq_some_iff] at stepped
    obtain ⟨shared, moved, same⟩ := stepped
    cases same
    exact ⟨h.balanced.edit_step moved, h.sound_of_precedes (Edit.step_precedes moved)⟩

theorem Consistent.run {t t' : Traffic} {actions : List TrafficAction} (h : t.Consistent)
    (ran : t.run actions = some t') : t'.Consistent := by
  induction actions generalizing t with
  | nil =>
    cases ran
    exact h
  | cons action rest ih =>
    simp only [Traffic.run, List.foldlM_cons, bind, Option.bind_eq_some_iff] at ran
    obtain ⟨next, stepped, ran⟩ := ran
    exact ih (h.step stepped) ran

/-- Nobody is at work on the queue: no offer, no taking and no draining has begun and not ended. -/
def Quiet (t : Traffic) : Prop :=
  (∀ i ∈ t.ingests, i.atQueue = false) ∧ ∀ k ∈ t.takings, k.atQueue = false

/-- No snapshot shows more packets gone than come, wherever the threads stand while it is taken; and
while nobody is at work on the queue, the enqueued packets are those resident and those gone. -/
theorem snapshots_consistent {filters : FilterChain} {capacity : Nat} {strategy : DropStrategy}
    {actions : List TrafficAction} {t : Traffic} (positive : 0 < capacity)
    (ran : (ofQueue filters (PacketQueue.create capacity strategy)).run actions = some t)
    (few : t.shared.ledger.captured.length < 2 ^ 64) :
    (∀ s ∈ t.snapshots, s.left = [] →
      s.copy.filtered.toNat + s.copy.enqueued.toNat ≤ s.copy.captured.toNat ∧
      s.copy.dequeued.toNat + s.copy.dropped.toNat + s.copy.rejected.toNat ≤
        s.copy.enqueued.toNat) ∧
    (t.Quiet → t.shared.ledger.undecided = [] →
      t.shared.queue.metrics.enqueued.toNat =
        t.shared.queue.queue.packets.length + t.shared.queue.metrics.dequeued.toNat +
          t.shared.queue.metrics.dropped.toNat + t.shared.queue.metrics.rejected.toNat) := by
  have consistent := (ofQueue_consistent filters positive rfl).run ran
  constructor
  · intro s member complete
    have sound := consistent.sound few s member
    exact ⟨sound.captured (by simp [complete]), sound.enqueued (by simp [complete])⟩
  · intro quiet noPanic
    obtain ⟨_, dropped, rejected, dequeued, enqueued⟩ :=
      consistent.balanced.counters_of_quiet few quiet.1 quiet.2
    rw [noPanic, List.length_nil] at enqueued
    omega

/-- Two packets at a queue of one slot: the first is dropped, and the second taken before the drop is
counted. A snapshot that has begun before shows neither gone. -/
theorem snapshots_consistent_of_two :
    let actions := [.beginSnapshot, .beginIngest { sequence := 0, data := [] },
      .beginIngest { sequence := 1, data := [] }, .beginTaking false] ++
        List.replicate 9 (.ingest 0) ++ [.load 0, .load 0] ++ List.replicate 8 (.ingest 1) ++
        List.replicate 4 (.take 0) ++ List.replicate 6 (.load 0) ++ [.ingest 1]
    ∃ t, (ofQueue .empty (.create 1 (.always .dropOldest))).run actions = some t ∧
      t.shared.ledger.captured.length < 2 ^ 64 ∧ t.Quiet ∧ t.shared.ledger.undecided = [] ∧
      t.shared.queue.metrics.dequeued = 1 ∧ t.shared.queue.metrics.dropped = 1 ∧
      t.snapshots = [{ copy := { captured := 2, enqueued := 2, highWater := 1 }, left := [] }] ∧
      (∀ s ∈ t.snapshots, s.left = [] →
        s.copy.filtered.toNat + s.copy.enqueued.toNat ≤ s.copy.captured.toNat ∧
        s.copy.dequeued.toNat + s.copy.dropped.toNat + s.copy.rejected.toNat ≤
          s.copy.enqueued.toNat) ∧
      t.shared.queue.metrics.enqueued.toNat =
        t.shared.queue.queue.packets.length + t.shared.queue.metrics.dequeued.toNat +
          t.shared.queue.metrics.dropped.toNat + t.shared.queue.metrics.rejected.toNat := by
  intro actions
  obtain ⟨t, ran⟩ : ∃ t, (ofQueue .empty (.create 1 (.always .dropOldest))).run actions = some t :=
    ⟨_, rfl⟩
  refine ⟨t, ran, ?_⟩
  have few : t.shared.ledger.captured.length < 2 ^ 64 := by
    cases ran
    decide
  have quiet : t.Quiet := by
    cases ran
    exact ⟨by decide, by decide⟩
  have noPanic : t.shared.ledger.undecided = [] := by
    cases ran
    rfl
  have law := snapshots_consistent (by decide) ran few
  refine ⟨few, quiet, noPanic, ?_, ?_, ?_, law.1, law.2 quiet noPanic⟩ <;> cases ran <;> decide

end Traffic
end CaptureQueue
