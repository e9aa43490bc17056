import CaptureQueue.Metrics
import Mathlib.Algebra.Ring.Nat

/-! Counters as tallies of the updates they have gone through. -/

set_option autoImplicit false
namespace CaptureQueue

inductive Counter where
  | captured
  | filtered
  | enqueued
  | dropped
  | rejected
  | dequeued
  | bytes
  | highWater
deriving DecidableEq, Repr

namespace MetricUpdate

def counter : MetricUpdate → Counter
  | .captured => .captured
  | .filtered => .filtered
  | .enqueued => .enqueued
  | .dropped => .dropped
  | .rejected => .rejected
  | .dequeued => .dequeued
  | .bytes _ => .bytes
  | .occupancy _ => .highWater

end MetricUpdate

namespace Counter

def value (m : Metrics) : Counter → UInt64
  | .captured => m.captured
  | .filtered => m.filtered
  | .enqueued => m.enqueued
  | .dropped => m.dropped
  | .rejected => m.rejected
  | .dequeued => m.dequeued
  | .bytes => m.bytes
  | .highWater => m.highWater

/-- Whether every update adds one. -/
def CountsEvents (c : Counter) : Prop := c ≠ .bytes ∧ c ≠ .highWater

instance : DecidablePred CountsEvents := fun c =>
  inferInstanceAs (Decidable (c ≠ .bytes ∧ c ≠ .highWater))

def tally (c : Counter) (us : List MetricUpdate) : Nat := us.countP (·.counter = c)

@[simp] theorem tally_nil (c : Counter) : c.tally [] = 0 := rfl

@[simp] theorem tally_append (c : Counter) (us vs : List MetricUpdate) :
    c.tally (us ++ vs) = c.tally us + c.tally vs := List.countP_append

theorem tally_cons (c : Counter) (u : MetricUpdate) (us : List MetricUpdate) :
    c.tally (u :: us) = c.tally us + if u.counter = c then 1 else 0 := by
  simp [tally, List.countP_cons]

theorem tally_perm (c : Counter) {us vs : List MetricUpdate} (same : us.Perm vs) :
    c.tally us = c.tally vs := same.countP_eq _

theorem value_update (m : Metrics) (u : MetricUpdate) {c : Counter} (counts : c.CountsEvents) :
    c.value (m.update u) = c.value m + if u.counter = c then 1 else 0 := by
  obtain ⟨notBytes, notHighWater⟩ := counts
  cases u <;> cases c <;> first | contradiction | simp [Metrics.update, value, MetricUpdate.counter]

theorem value_updateAll (m : Metrics) (us : List MetricUpdate) {c : Counter} (counts : c.CountsEvents) :
    c.value (m.updateAll us) = c.value m + UInt64.ofNat (c.tally us) := by
  induction us generalizing m with
  | nil => simp [Metrics.updateAll]
  | cons u us ih =>
    have rest : (m.updateAll (u :: us)) = (m.update u).updateAll us := rfl
    rw [rest, ih, value_update m u counts, tally_cons, UInt64.ofNat_add]
    split
    · rw [UInt64.add_assoc, UInt64.add_comm 1]
      rfl
    · simp

theorem value_update_of_ne (m : Metrics) {u : MetricUpdate} {c : Counter} (other : u.counter ≠ c) :
    c.value (m.update u) = c.value m := by
  cases u <;> cases c <;> first | rfl | exact absurd rfl other

theorem value_updateAll_of_untouched (m : Metrics) {us : List MetricUpdate} {c : Counter}
    (untouched : ∀ u ∈ us, u.counter ≠ c) : c.value (m.updateAll us) = c.value m := by
  induction us generalizing m with
  | nil => rfl
  | cons u us ih =>
    have rest : m.updateAll (u :: us) = (m.update u).updateAll us := rfl
    rw [rest, ih _ fun v later => untouched v (List.mem_cons_of_mem u later),
      value_update_of_ne m (untouched u List.mem_cons_self)]

/-- A counter that started at zero and has not wrapped shows the number of its updates. -/
theorem toNat_value_updateAll {us : List MetricUpdate} {c : Counter} (counts : c.CountsEvents)
    (few : c.tally us < 2 ^ 64) : (c.value (Metrics.zero.updateAll us)).toNat = c.tally us := by
  have zero : c.value Metrics.zero = 0 := by cases c <;> rfl
  rw [value_updateAll _ us counts, zero, UInt64.zero_add]
  exact UInt64.toNat_ofNat_of_lt few

end Counter

namespace Metrics

theorem updateAll_concat (m : Metrics) (us : List MetricUpdate) (u : MetricUpdate) :
    m.updateAll (us ++ [u]) = (m.updateAll us).update u := by
  simp [updateAll]

end Metrics
end CaptureQueue
