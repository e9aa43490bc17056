import CaptureQueue.Config
import Mathlib.Data.List.Induction
import Mathlib.Data.List.Nodup

/-! What a chain holds after any calls, and which handles it has given out. A handle stands for one
predicate and no other, and goes with it. -/

set_option autoImplicit false
namespace CaptureQueue

/-- What can be asked of a chain. The handle of a removal may be any, also one of another chain. -/
inductive ChainCall where
  | add (p : Predicate)
  | remove (id : FilterId)

inductive ChainAnswer where
  | added (id : FilterId)
  | removed (found : Bool)
deriving DecidableEq, Repr

def ChainCall.adds : ChainCall → Bool
  | .add _ => true
  | .remove _ => false

def ChainAnswer.handle? : ChainAnswer → Option FilterId
  | .added id => some id
  | .removed _ => none

namespace FilterChain

def serve (c : FilterChain) : ChainCall → FilterChain × ChainAnswer
  | .add p => ((c.add p).1, .added (c.add p).2)
  | .remove id => ((c.remove id).1, .removed (c.remove id).2)

def serveAll (c : FilterChain) : List ChainCall → FilterChain × List ChainAnswer
  | [] => (c, [])
  | call :: rest =>
    let (served, answer) := c.serve call
    let (last, answers) := served.serveAll rest
    (last, answer :: answers)

theorem serveAll_concat (c : FilterChain) (calls : List ChainCall) (last : ChainCall) :
    (c.serveAll (calls ++ [last])).1 = ((c.serveAll calls).1.serve last).1 := by
  induction calls generalizing c with
  | nil => rfl
  | cons call rest ih => exact ih (c.serve call).1

/-! ## Removing -/

theorem remove_of_absent {c : FilterChain} {id : FilterId} (absent : ∀ entry ∈ c.entries, entry.1 ≠ id) :
    c.remove id = (c, false) := by
  have kept : c.entries.filter (·.1 ≠ id) = c.entries :=
    List.filter_eq_self.mpr fun entry member => decide_eq_true (absent entry member)
  simp only [remove, kept, ne_eq, not_true_eq_false, decide_false]

theorem remove_of_mem {c : FilterChain} {id : FilterId} {p : Predicate}
    (ascending : c.entries.Pairwise (·.1.number < ·.1.number)) (member : (id, p) ∈ c.entries) :
    ∃ front back, c.entries = front ++ (id, p) :: back ∧
      c.remove id = ({ c with entries := front ++ back }, true) := by
  obtain ⟨front, back, split⟩ := List.append_of_mem member
  rw [split, List.pairwise_append, List.pairwise_cons] at ascending
  obtain ⟨_, ⟨behind, _⟩, before⟩ := ascending
  have keptFront : front.filter (·.1 ≠ id) = front := by
    refine List.filter_eq_self.mpr fun entry inFront => decide_eq_true fun same => ?_
    exact Nat.lt_irrefl _ (same ▸ before entry inFront (id, p) List.mem_cons_self)
  have keptBack : back.filter (·.1 ≠ id) = back := by
    refine List.filter_eq_self.mpr fun entry inBack => decide_eq_true fun same => ?_
    exact Nat.lt_irrefl _ (same ▸ behind entry inBack)
  have kept : c.entries.filter (·.1 ≠ id) = front ++ back := by
    rw [split, List.filter_append, List.filter_cons_of_neg (by simp), keptFront, keptBack]
  have shorter : (front ++ back).length ≠ c.entries.length := by simp [split]
  refine ⟨front, back, split, ?_⟩
  simp only [remove, kept, shorter, ne_eq, not_false_eq_true, decide_true]

theorem absent_remove (c : FilterChain) (id : FilterId) :
    ∀ entry ∈ (c.remove id).1.entries, entry.1 ≠ id := by
  intro entry member
  exact of_decide_eq_true (List.mem_filter.mp member).2

/-! ## Handles -/

theorem next_serveAll (c : FilterChain) (calls : List ChainCall) :
    (c.serveAll calls).1.next = c.next + calls.countP ChainCall.adds := by
  induction calls generalizing c with
  | nil => rfl
  | cons call rest ih =>
    have step := ih (c.serve call).1
    cases call with
    | add p =>
      rw [List.countP_cons_of_pos rfl, Nat.add_comm _ 1, ← Nat.add_assoc]
      exact step
    | remove id =>
      rw [List.countP_cons_of_neg (by simp [ChainCall.adds])]
      exact step

/-- The handles that a chain gives out count on from its next one. -/
theorem handles_serveAll (c : FilterChain) (calls : List ChainCall) :
    (c.serveAll calls).2.filterMap ChainAnswer.handle? =
      (List.range' c.next (calls.countP ChainCall.adds)).map FilterId.mk := by
  induction calls generalizing c with
  | nil => rfl
  | cons call rest ih =>
    have step := ih (c.serve call).1
    cases call with
    | add p =>
      rw [List.countP_cons_of_pos rfl, List.range'_succ, List.map_cons]
      exact congrArg (FilterId.mk c.next :: ·) step
    | remove id =>
      rw [List.countP_cons_of_neg (by simp [ChainCall.adds])]
      exact step

theorem added_mem_iff {c : FilterChain} {calls : List ChainCall} {id : FilterId} :
    .added id ∈ (c.serveAll calls).2 ↔
      c.next ≤ id.number ∧ id.number < (c.serveAll calls).1.next := by
  have told : .added id ∈ (c.serveAll calls).2 ↔
      id ∈ (c.serveAll calls).2.filterMap ChainAnswer.handle? := by
    rw [List.mem_filterMap]
    constructor
    · exact fun member => ⟨.added id, member, rfl⟩
    · rintro ⟨answer, member, same⟩
      cases answer with
      | added other => cases same; exact member
      | removed found => cases same
  rw [told, handles_serveAll, next_serveAll, List.mem_map]
  constructor
  · rintro ⟨n, inside, rfl⟩
    exact List.mem_range'_1.mp inside
  · exact fun inside => ⟨id.number, List.mem_range'_1.mpr inside, rfl⟩

/-- A handle that is given out is not the handle of any entry of before. -/
theorem absent_serveAll {c : FilterChain} {calls : List ChainCall} {id : FilterId}
    (absent : ∀ entry ∈ c.entries, entry.1 ≠ id) (unissued : .added id ∉ (c.serveAll calls).2) :
    ∀ entry ∈ (c.serveAll calls).1.entries, entry.1 ≠ id := by
  induction calls generalizing c with
  | nil => exact absent
  | cons call rest ih =>
    obtain ⟨first, others⟩ := not_or.mp (mt List.mem_cons.mpr unissued)
    refine ih ?_ others
    intro entry member
    cases call with
    | add p =>
      rcases List.mem_append.mp member with old | new
      · exact absent entry old
      · rw [List.mem_singleton.mp new]
        exact fun same => first (congrArg ChainAnswer.added same).symm
    | remove other => exact absent entry (List.mem_filter.mp member).1

/-! ## The entries of a history -/

/-- In the course of the calls the predicate was added under the handle, and that was not removed
since. -/
def Kept (calls : List ChainCall) (id : FilterId) (p : Predicate) : Prop :=
  ∃ before later, calls = before ++ .add p :: later ∧
    ((empty.serveAll before).1.add p).2 = id ∧ .remove id ∉ later

section

variable {calls : List ChainCall} {id : FilterId} {p q : Predicate}

theorem kept_add_iff : Kept (calls ++ [.add q]) id p ↔
    Kept calls id p ∨ id = ((empty.serveAll calls).1.add q).2 ∧ p = q := by
  constructor
  · rintro ⟨before, later, same, issued, stays⟩
    rcases List.eq_nil_or_concat later with rfl | ⟨rest, last, rfl⟩
    · obtain ⟨rfl, last⟩ := List.append_inj' same rfl
      cases last
      exact .inr ⟨issued.symm, rfl⟩
    · rw [List.concat_eq_append, ← List.cons_append, ← List.append_assoc] at same
      obtain ⟨rfl, _⟩ := List.append_inj' same rfl
      exact .inl ⟨before, rest, rfl, issued, fun member => stays (by simp [member])⟩
  · rintro (⟨before, later, rfl, issued, stays⟩ | ⟨rfl, rfl⟩)
    · exact ⟨before, later ++ [.add q], by simp, issued, by simp [stays]⟩
    · exact ⟨calls, [], rfl, rfl, by simp⟩

theorem kept_remove_iff {gone : FilterId} : Kept (calls ++ [.remove gone]) id p ↔
    Kept calls id p ∧ id ≠ gone := by
  constructor
  · rintro ⟨before, later, same, issued, stays⟩
    rcases List.eq_nil_or_concat later with rfl | ⟨rest, last, rfl⟩
    · obtain ⟨_, last⟩ := List.append_inj' same rfl
      cases last
    · rw [List.concat_eq_append, ← List.cons_append, ← List.append_assoc] at same
      obtain ⟨rfl, last⟩ := List.append_inj' same rfl
      cases last
      refine ⟨⟨before, rest, rfl, issued, fun member => stays (by simp [member])⟩, ?_⟩
      exact fun same => stays (by simp [same])
  · rintro ⟨⟨before, later, rfl, issued, stays⟩, other⟩
    exact ⟨before, later ++ [.remove gone], by simp, issued, by simp [stays, other]⟩

end

structure Holds (c : FilterChain) (calls : List ChainCall) : Prop where
  below : ∀ entry ∈ c.entries, entry.1.number < c.next
  ascending : c.entries.Pairwise (·.1.number < ·.1.number)
  mem_iff : ∀ id p, (id, p) ∈ c.entries ↔ Kept calls id p

theorem holds_serveAll (calls : List ChainCall) : (empty.serveAll calls).1.Holds calls := by
  -- each call is judged by the chain that those before it left
  induction calls using List.reverseRecOn with
  | nil =>
    refine ⟨by simp [serveAll, empty], .nil, fun id p => iff_of_false (by simp [serveAll, empty]) ?_⟩
    rintro ⟨before, later, same, _⟩
    cases before <;> cases same
  | append_singleton calls last ih =>
    rw [serveAll_concat]
    cases last with
    | add q =>
      refine ⟨?_, ?_, fun id p => ?_⟩
      · intro entry member
        rcases List.mem_append.mp member with old | new
        · exact Nat.lt_succ_of_lt (ih.below entry old)
        · rw [List.mem_singleton.mp new]
          exact Nat.lt_succ_self _
      · refine List.pairwise_append.mpr ⟨ih.ascending, List.pairwise_singleton _ _, ?_⟩
        intro entry old new isNew
        rw [List.mem_singleton.mp isNew]
        exact ih.below entry old
      · rw [kept_add_iff, ← ih.mem_iff]
        simp [serve, add]
    | remove gone =>
      refine ⟨?_, ih.ascending.filter _, fun id p => ?_⟩
      · intro entry member
        exact ih.below entry (List.mem_filter.mp member).1
      · rw [kept_remove_iff, ← ih.mem_iff]
        simp [serve, remove]

/-! ## Configured chains -/

theorem serveAll_adds (c : FilterChain) (ps : List Predicate) :
    c.serveAll (ps.map .add) =
      ({ entries := c.entries ++ (ps.zipIdx c.next).map fun (p, n) => (⟨n⟩, p)
         next := c.next + ps.length },
        (List.range' c.next ps.length).map fun n => .added ⟨n⟩) := by
  induction ps generalizing c with
  | nil => simp [serveAll]
  | cons p rest ih =>
    simp only [List.map_cons, serveAll, serve, ih, add, List.zipIdx_cons, List.length_cons,
      List.range'_succ, List.append_assoc, List.singleton_append]
    rw [Nat.add_assoc, Nat.add_comm 1]

theorem ofList_eq (ps : List Predicate) : ofList ps = (empty.serveAll (ps.map .add)).1 := by
  have grown (c : FilterChain) :
      ps.foldl (fun c p => (c.add p).1) c = (c.serveAll (ps.map .add)).1 := by
    induction ps generalizing c with
    | nil => rfl
    | cons p rest ih => exact ih (c.add p).1
  exact grown empty

theorem entries_filterChain (config : Config) : config.filterChain.entries =
    config.filters.zipIdx.map fun (f, n) => (⟨n⟩, .ofRule f.name f.rule) := by
  rw [Config.filterChain, ofList_eq, serveAll_adds]
  simp [empty, List.zipIdx_map]

/-- After any calls on an empty chain: the handles given out are the numbers from zero on, so none is
given out twice; the entries are the predicates added and not removed since, in the order of their
handles, which is that of their addition; a removal finds what was added under the handle and not
removed since, takes out that entry alone, and otherwise does nothing; and one that was made is
not to be made again, whatever calls come between, unless the handle is given out among them, which
it is not if it was before. The chain of a configuration has the numbers of its filters as
handles. -/
theorem handles_never_reused (calls : List ChainCall) :
    let chain := (empty.serveAll calls).1
    let answers := (empty.serveAll calls).2
    (answers.filterMap ChainAnswer.handle? =
        (List.range (calls.countP ChainCall.adds)).map FilterId.mk ∧
      (answers.filterMap ChainAnswer.handle?).Nodup) ∧
    (chain.entries.Pairwise (·.1.number < ·.1.number) ∧
      ∀ id p, (id, p) ∈ chain.entries ↔ Kept calls id p) ∧
    (∀ id, ((chain.remove id).2 = true ↔ ∃ p, Kept calls id p) ∧
      ((chain.remove id).2 = true → ∃ front p back, Kept calls id p ∧
        chain.entries = front ++ (id, p) :: back ∧
        (chain.remove id).1 = { chain with entries := front ++ back }) ∧
      ((chain.remove id).2 = false → (chain.remove id).1 = chain)) ∧
    (∀ id between, let later := (chain.remove id).1.serveAll between
      (.added id ∈ answers → .added id ∉ later.2) ∧
      (.added id ∉ later.2 → later.1.remove id = (later.1, false))) ∧
    ∀ config : Config,
      config.filterChain = (empty.serveAll
        (config.filters.map fun f => .add (.ofRule f.name f.rule))).1 ∧
      (empty.serveAll (config.filters.map fun f => .add (.ofRule f.name f.rule))).2 =
        (List.range config.filters.length).map (fun n => .added ⟨n⟩) ∧
      config.filterChain.entries =
        config.filters.zipIdx.map fun (f, n) => (⟨n⟩, .ofRule f.name f.rule) := by
  intro chain answers
  have holds : chain.Holds calls := holds_serveAll calls
  have handles : answers.filterMap ChainAnswer.handle? =
      (List.range (calls.countP ChainCall.adds)).map FilterId.mk := by
    rw [List.range_eq_range']
    exact handles_serveAll empty calls
  refine ⟨⟨handles, ?_⟩, ⟨holds.ascending, holds.mem_iff⟩, fun id => ?_, fun id between => ?_,
    fun config => ⟨?_, ?_, entries_filterChain config⟩⟩
  · rw [handles]
    exact List.Nodup.map (fun _ _ same => congrArg FilterId.number same) List.nodup_range
  · by_cases found : ∃ p, (id, p) ∈ chain.entries
    · obtain ⟨p, member⟩ := found
      obtain ⟨front, back, split, removed⟩ := remove_of_mem holds.ascending member
      have kept := (holds.mem_iff id p).mp member
      rw [removed]
      exact ⟨iff_of_true rfl ⟨p, kept⟩, fun _ => ⟨front, p, back, kept, split, rfl⟩, by simp⟩
    · have absent : ∀ entry ∈ chain.entries, entry.1 ≠ id := by
        rintro ⟨other, p⟩ member rfl
        exact found ⟨p, member⟩
      rw [remove_of_absent absent]
      refine ⟨iff_of_false (by simp) ?_, by simp, fun _ => rfl⟩
      rintro ⟨p, kept⟩
      exact found ⟨p, (holds.mem_iff id p).mpr kept⟩
  · refine ⟨fun before again => ?_, fun unissued => ?_⟩
    · have old : id.number < chain.next := (added_mem_iff.mp before).2
      have new : chain.next ≤ id.number := (added_mem_iff.mp again).1
      omega
    · exact remove_of_absent (absent_serveAll (absent_remove chain id) unissued)
  · rw [Config.filterChain, ofList_eq, List.map_map]
    rfl
  · have answered := congrArg Prod.snd
      (serveAll_adds empty (config.filters.map fun f => .ofRule f.name f.rule))
    rw [List.map_map, List.length_map] at answered
    rw [List.range_eq_range']
    exact answered

-- A handle that is removed before it is given out, and twice after.
example (p q : Predicate) :
    (empty.serveAll [.remove ⟨0⟩, .add p, .remove ⟨0⟩, .remove ⟨0⟩, .add q]).2 =
      [.removed false, .added ⟨0⟩, .removed true, .removed false, .added ⟨1⟩] := rfl

end FilterChain
end CaptureQueue
