import CaptureQueue.Proofs.Filter.History
import Mathlib.Data.List.Basic

/-! The two ways to evaluate a chain, for a verdict and for the entry that rejects. Both ask the same
predicates one after the other and end at the same one. A chain of rules comes to the conjunction of
the rules, whose order tells only which of them is named. -/

set_option autoImplicit false
namespace CaptureQueue

instance : Inhabited Fault := ⟨⟨none⟩⟩

theorem Fault.exists_ne (fault : Fault) : ∃ other, fault ≠ other := by
  by_cases silent : fault = ⟨none⟩
  · exact ⟨⟨some ""⟩, by simp [silent]⟩
  · exact ⟨⟨none⟩, silent⟩

namespace FilterChain

/-! ## Evaluations -/

variable {c : FilterChain} {entries : List (FilterId × Predicate)} {packet : Packet}

theorem allAdmit_eq (entries : List (FilterId × Predicate)) (packet : Packet) :
    allAdmit entries packet = (findRejection entries packet).map Option.isNone := by
  induction entries with
  | nil => rfl
  | cons entry rest ih =>
    obtain ⟨id, p⟩ := entry
    simp only [allAdmit, findRejection]
    cases p.admits packet with
    | error fault => rfl
    | ok admitted =>
      cases admitted with
      | true => exact ih
      | false => rfl

theorem admits_eq (c : FilterChain) (packet : Packet) :
    c.admits packet = (c.firstRejection packet).map Option.isNone := allAdmit_eq c.entries packet

theorem admits_eq_error_iff {fault : Fault} :
    c.admits packet = .error fault ↔ c.firstRejection packet = .error fault := by
  rw [admits_eq]
  cases c.firstRejection packet <;> simp [Except.map]

theorem allAdmit_eq_true_iff :
    allAdmit entries packet = .ok true ↔ ∀ entry ∈ entries, entry.2.admits packet = .ok true := by
  induction entries with
  | nil => simp [allAdmit]
  | cons entry rest ih =>
    obtain ⟨id, p⟩ := entry
    rw [List.forall_mem_cons, ← ih, allAdmit]
    cases p.admits packet with
    | error fault => simp
    | ok admitted => cases admitted <;> simp

theorem findRejection_cons_of_admits {entry : FilterId × Predicate}
    (admitted : entry.2.admits packet = .ok true) :
    findRejection (entry :: entries) packet = findRejection entries packet := by
  simp only [findRejection, admitted]

theorem findRejection_eq_some_iff {id : FilterId} {name : String} :
    findRejection entries packet = .ok (some (id, name)) ↔
      ∃ front p back, entries = front ++ (id, p) :: back ∧
        (∀ entry ∈ front, entry.2.admits packet = .ok true) ∧ p.admits packet = .ok false ∧
        p.name = name := by
  constructor
  · intro found
    induction entries with
    | nil => cases found
    | cons entry rest ih =>
      obtain ⟨other, p⟩ := entry
      rw [findRejection] at found
      split at found
      case h_1 admitted =>
        obtain ⟨front, q, back, rfl, before, rejects⟩ := ih found
        exact ⟨(other, p) :: front, q, back, rfl, List.forall_mem_cons.mpr ⟨admitted, before⟩, rejects⟩
      case h_2 rejected =>
        cases found
        exact ⟨[], p, rest, rfl, by simp, rejected, rfl⟩
      case h_3 => cases found
  · rintro ⟨front, p, back, rfl, before, rejected, rfl⟩
    induction front with
    | nil => simp only [List.nil_append, findRejection, rejected]
    | cons entry rest ih =>
      obtain ⟨admitted, before⟩ := List.forall_mem_cons.mp before
      exact (findRejection_cons_of_admits admitted).trans (ih before)

/-! ## Which predicates are asked -/

def breaking (fault : Fault) (entry : FilterId × Predicate) : FilterId × Predicate :=
  (entry.1, ⟨entry.2.name, fun _ => .error fault⟩)

def breakAt (c : FilterChain) (i : Nat) (fault : Fault) : FilterChain :=
  { c with entries := c.entries.modify i (breaking fault) }

/-- An evaluation asks the predicate at an index if it breaks with whatever that breaks with. -/
def Asks {α : Type} (evaluate : FilterChain → Packet → Except Fault α) (c : FilterChain)
    (packet : Packet) (i : Nat) : Prop :=
  ∀ fault, evaluate (c.breakAt i fault) packet = .error fault

/-- It is asked, and before another, if it still is when that one breaks. -/
def AsksBefore {α : Type} (evaluate : FilterChain → Packet → Except Fault α) (c : FilterChain)
    (packet : Packet) (i j : Nat) : Prop :=
  ∀ fault, Asks evaluate (c.breakAt j fault) packet i

def Reaches (c : FilterChain) (packet : Packet) (i : Nat) : Prop :=
  ∀ entry ∈ c.entries.take i, entry.2.admits packet = .ok true

section

variable {i j : Nat}

theorem asks_admits_iff : Asks admits c packet i ↔ Asks firstRejection c packet i :=
  forall_congr' fun _ => admits_eq_error_iff

theorem findRejection_modify_iff (inside : i < entries.length) :
    (∀ fault, findRejection (entries.modify i (breaking fault)) packet = .error fault) ↔
      ∀ entry ∈ entries.take i, entry.2.admits packet = .ok true := by
  induction entries generalizing i with
  | nil => cases inside
  | cons entry rest ih =>
    cases i with
    | zero => simp [breaking, findRejection]
    | succ i =>
      simp only [List.modify_succ_cons, List.take_succ_cons, List.forall_mem_cons, findRejection]
      -- an answer that ends the evaluation is its result, whatever breaks further back
      cases entry.2.admits packet with
      | error own => simpa using Fault.exists_ne own
      | ok admitted =>
        cases admitted with
        | true => simpa using ih (Nat.lt_of_succ_lt_succ inside)
        | false => simp

theorem asks_iff (inside : i < c.entries.length) :
    Asks firstRejection c packet i ↔ c.Reaches packet i := findRejection_modify_iff inside

theorem reaches_breakAt_iff {fault : Fault} (inside : j < c.entries.length) :
    (c.breakAt j fault).Reaches packet i ↔ i ≤ j ∧ c.Reaches packet i := by
  unfold Reaches breakAt
  rcases Nat.lt_or_ge j i with before | behind
  · refine iff_of_false (fun reached => ?_) fun held => Nat.not_lt.mpr held.1 before
    have broken : breaking fault c.entries[j] ∈ (c.entries.modify j (breaking fault)).take i := by
      refine List.mem_of_getElem? (i := j) ?_
      rw [List.getElem?_take_of_lt before, List.getElem?_modify, List.getElem?_eq_getElem inside]
      simp
    cases reached _ broken
  · have same : (c.entries.modify j (breaking fault)).take i = c.entries.take i := by
      have short : (c.entries.take i).length ≤ j := by
        rw [List.length_take]
        omega
      rw [List.take_modify, List.modify_eq_self short]
    rw [same]
    exact (and_iff_right behind).symm

theorem asksBefore_admits_iff :
    AsksBefore admits c packet i j ↔ AsksBefore firstRejection c packet i j :=
  forall_congr' fun _ => asks_admits_iff

theorem asksBefore_iff (inside : i < c.entries.length) (insideToo : j < c.entries.length)
    (other : i ≠ j) : AsksBefore firstRejection c packet i j ↔ i < j ∧ c.Reaches packet i := by
  have each (fault : Fault) : Asks firstRejection (c.breakAt j fault) packet i ↔
      i ≤ j ∧ c.Reaches packet i := by
    have kept : i < (c.breakAt j fault).entries.length := by simpa [breakAt] using inside
    rw [asks_iff kept, reaches_breakAt_iff insideToo]
  rw [AsksBefore, forall_congr' each, forall_const, Nat.lt_iff_le_and_ne]
  simp [other]

end

/-! ## Chains of rules -/

theorem admits_remove (id : FilterId) (admitted : c.admits packet = .ok true) :
    (c.remove id).1.admits packet = .ok true := by
  refine allAdmit_eq_true_iff.mpr fun entry member => ?_
  exact allAdmit_eq_true_iff.mp admitted entry (List.mem_filter.mp member).1

/-- If every predicate has an answer, the verdict is their conjunction. -/
theorem allAdmit_of_answers {answers : List Bool}
    (answered : entries.map (·.2.admits packet) = answers.map .ok) :
    allAdmit entries packet = .ok (answers.all id) := by
  induction entries generalizing answers with
  | nil =>
    cases List.map_eq_nil_iff.mp answered.symm
    rfl
  | cons entry rest ih =>
    obtain ⟨answer, later, rfl, first, others⟩ := List.map_eq_cons_iff.mp answered.symm
    have first : entry.2.admits packet = .ok answer := first.symm
    have further := ih others.symm
    rw [allAdmit, first]
    cases answer with
    | true => exact further
    | false => rfl

end FilterChain

theorem FilterRule.allMatch_eq (rules : List FilterRule) (packet : Packet) :
    allMatch rules packet = rules.all (·.matchesPacket packet) := by
  induction rules with
  | nil => rw [allMatch, List.all_nil]
  | cons rule rest ih => rw [allMatch, List.all_cons, ih]

theorem Config.filterChain_admits (config : Config) (packet : Packet) :
    config.filterChain.admits packet =
      .ok (config.filters.all fun f => f.rule.matchesPacket packet) := by
  have answered : config.filterChain.entries.map (·.2.admits packet) =
      (config.filters.map fun f => f.rule.matchesPacket packet).map .ok := by
    rw [FilterChain.entries_filterChain, List.map_map, List.map_map]
    conv => rhs; rw [← List.zipIdx_map_fst 0 config.filters, List.map_map]
    rfl
  rw [FilterChain.admits, FilterChain.allAdmit_of_answers answered, List.all_map]
  rfl

namespace FilterChain

/-- The two evaluations of a chain ask the same predicates, those that all before them admit, and in
the same order, also if predicates break. They break alike; if they do not, the one admits when the
other finds nobody who rejects, and else the other tells handle and name of the first who does. A
chain of a configuration admits what all its rules match, whatever their order, and what any chain
admits it admits with predicates taken out. -/
theorem evaluations_agree (c : FilterChain) (packet : Packet) :
    (∀ i < c.entries.length, (Asks admits c packet i ↔ c.Reaches packet i) ∧
      (Asks firstRejection c packet i ↔ c.Reaches packet i)) ∧
    (∀ i < c.entries.length, ∀ j < c.entries.length, i ≠ j →
      (AsksBefore admits c packet i j ↔ i < j ∧ c.Reaches packet i) ∧
      (AsksBefore firstRejection c packet i j ↔ i < j ∧ c.Reaches packet i)) ∧
    (∀ fault, c.admits packet = .error fault ↔ c.firstRejection packet = .error fault) ∧
    (∀ admitted rejection, c.admits packet = .ok admitted → c.firstRejection packet = .ok rejection →
      (admitted = true ↔ rejection = none)) ∧
    (∀ id name, c.firstRejection packet = .ok (some (id, name)) ↔
      ∃ front p back, c.entries = front ++ (id, p) :: back ∧
        (∀ entry ∈ front, entry.2.admits packet = .ok true) ∧ p.admits packet = .ok false ∧
        p.name = name) ∧
    (∀ id, c.admits packet = .ok true → (c.remove id).1.admits packet = .ok true) ∧
    ∀ config : Config,
      config.filterChain.admits packet =
        .ok ((FilterRule.all (config.filters.map (·.rule))).matchesPacket packet) ∧
      (∀ filters, filters.Perm config.filters →
        ({ config with filters := filters } : Config).filterChain.admits packet =
          config.filterChain.admits packet) ∧
      ∀ filters, filters.Sublist config.filters → config.filterChain.admits packet = .ok true →
        ({ config with filters := filters } : Config).filterChain.admits packet = .ok true := by
  refine ⟨fun i inside => ?_, fun i inside j insideToo other => ?_, fun fault => admits_eq_error_iff,
    ?_, fun id name => findRejection_eq_some_iff, fun id => admits_remove id, fun config => ⟨?_, ?_, ?_⟩⟩
  · rw [asks_admits_iff, asks_iff inside]
    exact ⟨.rfl, .rfl⟩
  · rw [asksBefore_admits_iff, asksBefore_iff inside insideToo other]
    exact ⟨.rfl, .rfl⟩
  · intro admitted rejection verdict found
    rw [admits_eq, found] at verdict
    cases verdict
    exact Option.isNone_iff_eq_none
  · rw [Config.filterChain_admits, FilterRule.matchesPacket, FilterRule.allMatch_eq, List.all_map]
    rfl
  · intro filters same
    rw [Config.filterChain_admits, Config.filterChain_admits]
    exact congrArg Except.ok same.all_eq
  · intro filters part admitted
    rw [Config.filterChain_admits, Except.ok.injEq, List.all_eq_true] at admitted ⊢
    exact fun f member => admitted f (part.subset member)

end FilterChain
end CaptureQueue
