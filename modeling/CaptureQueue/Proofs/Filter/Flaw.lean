import CaptureQueue.Filter.Rule

/-! The first flaw of a rule, found among all the rules that it is made of. -/

set_option autoImplicit false
namespace CaptureQueue.FilterRule

mutual

/-- The rules that a rule is made of: a rule before its parts, and these from the left. -/
def parts : FilterRule → List FilterRule
  | .protocol p => [.protocol p]
  | .port n => [.port n]
  | .host a => [.host a]
  | .length r => [.length r]
  | .all rules => .all rules :: partsOfAll rules
  | .any rules => .any rules :: partsOfAll rules
  | .not rule => .not rule :: parts rule

def partsOfAll : List FilterRule → List FilterRule
  | [] => []
  | rule :: rules => parts rule ++ partsOfAll rules

end

/-- What is wrong with a rule whatever it is made of. -/
inductive Offends : FilterRule → (message : String) → Prop
  | port : Offends (.port 0) "port must be in 1-65535"
  | length {min max : Nat} (reversed : max < min) :
    Offends (.length ⟨some min, some max⟩) s!"length min {min} exceeds max {max}"

def FirstOffence (rule : FilterRule) (message : String) : Prop :=
  ∃ before part after, rule.parts = before ++ part :: after ∧
    (∀ other ∈ before, ∀ m, ¬ other.Offends m) ∧ part.Offends message

def ownFlaw? : FilterRule → Option RuleFlaw
  | .port n => if n = 0 then some .portZero else none
  | .length ⟨some min, some max⟩ => if max < min then some (.reversedLength min max) else none
  | _ => none

theorem offends_iff {rule : FilterRule} {message : String} :
    rule.Offends message ↔ ∃ flaw, rule.ownFlaw? = some flaw ∧ flaw.message = message := by
  constructor
  · rintro (_ | reversed)
    · exact ⟨.portZero, rfl, rfl⟩
    · exact ⟨_, if_pos reversed, rfl⟩
  · rintro ⟨flaw, found, rfl⟩
    unfold ownFlaw? at found
    split at found
    case h_1 n =>
      split at found
      case isTrue zero =>
        cases found
        rw [zero]
        exact .port
      case isFalse => cases found
    case h_2 min max =>
      split at found
      case isTrue reversed =>
        cases found
        exact .length reversed
      case isFalse => cases found
    case h_3 => cases found

theorem ownFlaw?_eq_none_iff {rule : FilterRule} :
    rule.ownFlaw? = none ↔ ∀ message, ¬ rule.Offends message := by
  simp [offends_iff, Option.eq_none_iff_forall_ne_some]

mutual

theorem flaw?_eq_findSome? : (rule : FilterRule) → rule.flaw? = rule.parts.findSome? ownFlaw?
  | .protocol _ | .host _ => rfl
  | .port n => by
    rw [flaw?, parts, List.findSome?_singleton, ownFlaw?]
  | .length ⟨min, max⟩ => by
    rw [parts, List.findSome?_singleton]
    cases min <;> cases max <;> rfl
  | .all rules | .any rules => by
    rw [flaw?, parts, List.findSome?_cons, firstFlaw?_eq_findSome? rules]
    rfl
  | .not rule => by
    rw [flaw?, parts, List.findSome?_cons, flaw?_eq_findSome? rule]
    rfl

theorem firstFlaw?_eq_findSome? : (rules : List FilterRule) →
    firstFlaw? rules = (partsOfAll rules).findSome? ownFlaw?
  | [] => rfl
  | rule :: rules => by
    rw [firstFlaw?, partsOfAll, List.findSome?_append, flaw?_eq_findSome? rule,
      firstFlaw?_eq_findSome? rules]

end

theorem firstOffence_iff {rule : FilterRule} {message : String} :
    rule.FirstOffence message ↔ ∃ flaw, rule.flaw? = some flaw ∧ flaw.message = message := by
  simp only [flaw?_eq_findSome?, List.findSome?_eq_some_iff, ownFlaw?_eq_none_iff]
  constructor
  · rintro ⟨before, part, after, split, sound, offends⟩
    obtain ⟨flaw, found, same⟩ := offends_iff.mp offends
    exact ⟨flaw, ⟨before, part, after, split, found, sound⟩, same⟩
  · rintro ⟨flaw, ⟨before, part, after, split, found, sound⟩, same⟩
    exact ⟨before, part, after, split, sound, offends_iff.mpr ⟨flaw, found, same⟩⟩

theorem flaw?_eq_none_iff {rule : FilterRule} : rule.flaw? = none ↔
    .port 0 ∉ rule.parts ∧ ∀ min max, .length ⟨some min, some max⟩ ∈ rule.parts → min ≤ max := by
  simp only [flaw?_eq_findSome?, List.findSome?_eq_none_iff, ownFlaw?_eq_none_iff]
  constructor
  · intro sound
    exact ⟨fun found => sound _ found _ .port, fun min max found =>
      Nat.le_of_not_lt fun reversed => sound _ found _ (.length reversed)⟩
  · rintro ⟨ports, lengths⟩ part found message (_ | reversed)
    · exact ports found
    · exact absurd reversed (Nat.not_lt.mpr (lengths _ _ found))

end CaptureQueue.FilterRule
