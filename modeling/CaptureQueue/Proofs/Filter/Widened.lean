import CaptureQueue.Proofs.Filter.RoundTrip
import CaptureQueue.Proofs.Toml.Revised
import Mathlib.Data.List.Forall2

/-! Rules that are written with more than they need. Keys that mean nothing in a range of lengths,
however deep it is in a rule, leave the rule what it is. -/

set_option autoImplicit false
namespace CaptureQueue

open Toml.Decode (within_eq_ok)
open Toml (Revised Fieldwise including unchanged)

namespace Toml

section

variable {β : Type} {key : String} {encode : β → Except EncodeError TomlValue} {b? : Option β}
  {entries : List (String × TomlValue)}

theorem of_mem_optionalEntry (written : optionalEntry key encode b? = .ok entries) {other : String}
    {v : TomlValue} (member : (other, v) ∈ entries) :
    other = key ∧ ∃ b, b? = some b ∧ encode b = .ok v := by
  cases b? with
  | none =>
    cases written
    cases member
  | some b =>
    obtain ⟨w, encoded, same⟩ := bind_eq_ok.mp written
    cases same
    cases List.mem_singleton.mp member
    exact ⟨rfl, b, rfl, encoded⟩

/-- A field that has no entry is the same whether it is looked at or not. -/
theorem ite_optionalEntry_congr (written : optionalEntry key encode b? = .ok entries)
    {seen seen' : String → Bool} (same : ∀ entry ∈ entries, seen entry.1 = seen' entry.1) :
    (if seen key then b? else none) = if seen' key then b? else none := by
  cases b? with
  | none => rw [ite_self, ite_self]
  | some b =>
    obtain ⟨v, _, entry⟩ := bind_eq_ok.mp written
    cases entry
    rw [List.forall_mem_singleton.mp same]

end

/-- A list of values in either of its layouts. -/
def ListOf (vs : List TomlValue) (v : TomlValue) : Prop := v = .array vs ∨ v = .headed vs

end Toml

namespace LengthRange

def keep (kept : String → Bool) (r : LengthRange) : LengthRange where
  min := if kept "min" then r.min else none
  max := if kept "max" then r.max else none

def Widened : List (String × TomlValue) → List (String × TomlValue) → Prop :=
  Revised ["min", "max"] (fun _ => true) unchanged

theorem fieldwise {r : LengthRange} {members : List (String × TomlValue)}
    (written : r.toToml = .ok (.table members)) :
    Fieldwise ["min", "max"] setField {} unchanged members (r.keep ·) := by
  obtain ⟨least, greatest, first, second, same⟩ := toToml_eq_ok.mp written
  cases same
  constructor
  case known =>
    intro entry member
    rcases List.mem_append.mp member with member | member
    · rw [Toml.key_of_mem_optionalEntry first member]
      decide
    · rw [Toml.key_of_mem_optionalEntry second member]
      decide
  case none => rfl
  case set =>
    rintro key v _ seen member rfl
    rcases List.mem_append.mp member with member | member
    · obtain ⟨rfl, n, bound, encoded⟩ := Toml.of_mem_optionalEntry first member
      simp [setField, keep, including, bound, Toml.Decode.size, Toml.decode_natural encoded]
    · obtain ⟨rfl, n, bound, encoded⟩ := Toml.of_mem_optionalEntry second member
      simp [setField, keep, including, bound, Toml.Decode.size, Toml.decode_natural encoded]
  case congr =>
    intro seen seen' same
    obtain ⟨left, right⟩ := List.forall_mem_append.mp same
    rw [keep, keep, Toml.ite_optionalEntry_congr first left, Toml.ite_optionalEntry_congr second right]

theorem ofToml_of_widened {r : LengthRange} {members revised : List (String × TomlValue)}
    (written : r.toToml = .ok (.table members)) (widened : Widened members revised) :
    ofToml (.table revised) = .ok r :=
  (fieldwise written).record_of_revised widened

end LengthRange

namespace FilterRule

/-- A rule as it is written and the same with further keys in the ranges of lengths, in any layout
of its lists. -/
inductive Widened : TomlValue → TomlValue → Prop
  | same (v : TomlValue) : Widened v v
  | length {kind : String} {members revised : List (String × TomlValue)} (asks : kind = "length")
    (widened : LengthRange.Widened members revised) :
    Widened (.table [(kind, .table members)]) (.table [(kind, .table revised)])
  | parts {kind : String} {vs vs' : List TomlValue} {v' : TomlValue} (asks : kind = "all" ∨ kind = "any")
    (each : List.Forall₂ Widened vs vs') (laid : Toml.ListOf vs' v') :
    Widened (.table [(kind, .array vs)]) (.table [(kind, v')])
  | part {kind : String} {v v' : TomlValue} (asks : kind = "not") (widened : Widened v v') :
    Widened (.table [(kind, v)]) (.table [(kind, v')])

theorem ofSequence_of_listOf {vs : List TomlValue} {v : TomlValue} (laid : Toml.ListOf vs v) :
    ofSequence v = ofItems 0 vs := by
  rcases laid with rfl | rfl
  · rw [ofSequence]
  · rw [ofSequence]

mutual

-- The recursion is on the rule: the key that it is written under leaves one way to widen it.
theorem ofToml_of_widened : (rule : FilterRule) → (v v' : TomlValue) → rule.toToml = .ok v →
    Widened v v' → ofToml v' = .ok rule
  | .protocol _, _, _, written, widened | .port _, _, _, written, widened
  | .host _, _, _, written, widened => by
    cases written
    cases widened with
    | same => exact ofToml_toToml _ _ rfl
    | part asks => exact absurd asks (by decide)
  | .length r, _, _, written, widened => by
    obtain ⟨inner, first, same⟩ := bind_eq_ok.mp written
    cases same
    obtain ⟨least, greatest, _, _, rfl⟩ := LengthRange.toToml_eq_ok.mp first
    cases widened with
    | same => exact ofToml_toToml (.length r) _ written
    | length _ widened =>
      simpa [ofToml_single, ofContent] using
        map_eq_ok.mpr ⟨r, LengthRange.ofToml_of_widened first widened, rfl⟩
    | part asks => exact absurd asks (by decide)
  | .all rules, _, _, written, widened | .any rules, _, _, written, widened => by
    obtain ⟨inner, first, same⟩ := bind_eq_ok.mp written
    cases same
    cases widened with
    | same => exact ofToml_toToml _ _ written
    | parts _ each laid =>
      have items := (ofSequence_of_listOf laid).trans (ofItems_of_widened rules 0 inner _ first each)
      simpa [ofToml_single, ofContent] using map_eq_ok.mpr ⟨rules, items, rfl⟩
    | part asks => exact absurd asks (by decide)
  | .not rule, _, _, written, widened => by
    obtain ⟨inner, first, same⟩ := bind_eq_ok.mp written
    cases same
    cases widened with
    | same => exact ofToml_toToml (.not rule) _ written
    | length asks => exact absurd asks (by decide)
    | parts asks => exact absurd asks (by decide)
    | part _ widened =>
      simpa [ofToml_single, ofContent] using
        map_eq_ok.mpr ⟨rule, ofToml_of_widened rule inner _ first widened, rfl⟩

theorem ofItems_of_widened : (rules : List FilterRule) → (index : Nat) → (vs vs' : List TomlValue) →
    toTomls rules = .ok vs → List.Forall₂ Widened vs vs' → ofItems index vs' = .ok rules
  | [], _, _, _, written, each => by
    cases written
    cases each
    simp [ofItems]
  | rule :: rules, index, _, _, written, each => by
    obtain ⟨v, rest, first, later, rfl⟩ := toTomls_cons_eq_ok.mp written
    cases each with
    | cons widened each =>
      simp only [ofItems, bind_eq_ok, within_eq_ok]
      exact ⟨rule, ofToml_of_widened rule v _ first widened, rules,
        ofItems_of_widened rules (index + 1) rest _ later each, rfl⟩

end

end FilterRule
end CaptureQueue
