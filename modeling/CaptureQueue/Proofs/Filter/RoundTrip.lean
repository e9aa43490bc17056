import CaptureQueue.Config.OfToml
import CaptureQueue.Config.ToToml
import CaptureQueue.Proofs.Address.Text
import CaptureQueue.Proofs.Toml.Plain

/-! A rule of a filter is read back from what it is written as, however its lists are laid out.
It can be written unless a bound on lengths in it is too large. -/

set_option autoImplicit false
namespace CaptureQueue

open Toml.Decode (within_eq_ok Steady)

namespace Toml

def largest : Nat := Nat.pow 2 63 - 1

theorem natural_eq_ok {n : Nat} {v : TomlValue} :
    natural n = .ok v ↔ n ≤ largest ∧ v = .integer n := by
  have bound : (n : Int) ≤ TomlValue.maxInteger ↔ n ≤ largest := by
    rw [show TomlValue.maxInteger = ((Nat.pow 2 63 - 1 : Nat) : Int) from rfl, Int.ofNat_le]
    rfl
  simp only [natural, bound]
  split
  case isTrue fits => simp [fits, eq_comm]
  case isFalse large => simp [large]

theorem decode_integer {n limit : Nat} (below : n < limit) (expected : String) :
    Decode.natural limit expected (.integer n) = .ok n := by
  have inside : (0 : Int) ≤ n ∧ (n : Int) < limit := ⟨Int.natCast_nonneg n, Int.ofNat_lt.mpr below⟩
  rw [Decode.natural, if_pos inside, Int.toNat_natCast]

theorem decode_natural {n : Nat} {v : TomlValue} (written : natural n = .ok v) (expected : String) :
    Decode.natural (Nat.pow 2 64) expected v = .ok n := by
  obtain ⟨fits, rfl⟩ := natural_eq_ok.mp written
  exact decode_integer (Nat.lt_of_le_of_lt fits (by decide)) expected

theorem plain_natural {n : Nat} {v : TomlValue} (written : natural n = .ok v) : v.plain = v := by
  obtain ⟨_, rfl⟩ := natural_eq_ok.mp written
  rfl

section

theorem exists_map_iff {ε α β : Type} {x : Except ε α} {f : α → β} :
    (∃ b, (x >>= fun a => pure (f a)) = .ok b) ↔ ∃ a, x = .ok a := by
  simp only [bind_eq_ok]
  constructor
  · rintro ⟨b, a, first, _⟩
    exact ⟨a, first⟩
  · rintro ⟨a, first⟩
    exact ⟨f a, a, first, rfl⟩

variable {α β : Type} {key : String} {encode : β → Except EncodeError TomlValue} {b? : Option β}
  {entries : List (String × TomlValue)}

theorem exists_optionalEntry_iff :
    (∃ entries, optionalEntry key encode b? = .ok entries) ↔ ∀ b ∈ b?, ∃ v, encode b = .ok v := by
  cases b? with
  | none => simp [optionalEntry]
  | some b =>
    simp only [optionalEntry, Option.mem_some_iff, forall_eq']
    exact exists_map_iff

theorem key_of_mem_optionalEntry (written : optionalEntry key encode b? = .ok entries)
    {entry : String × TomlValue} (member : entry ∈ entries) : entry.1 = key := by
  cases b? with
  | none =>
    cases written
    cases member
  | some b =>
    obtain ⟨v, _, same⟩ := bind_eq_ok.mp written
    cases same
    rw [List.mem_singleton.mp member]

theorem plain_optionalEntry (each : ∀ b v, encode b = .ok v → v.plain = v)
    (written : optionalEntry key encode b? = .ok entries) :
    TomlValue.plainMembers entries = entries := by
  cases b? with
  | none =>
    cases written
    rfl
  | some b =>
    obtain ⟨v, encoded, same⟩ := bind_eq_ok.mp written
    cases same
    rw [TomlValue.plainMembers, each b v encoded, TomlValue.plainMembers]

/-- What a decoder of a record makes of the fields given, if it knows all of them. -/
theorem record_eq_ok {name : String} {known : List String}
    {setField : String → TomlValue → α → Except DecodeFailure α} {default a : α}
    (all : ∀ entry ∈ entries, entry.1 ∈ known)
    (set : entries.foldlM (fun a entry => setField entry.1 entry.2 a) default = .ok a) :
    Decode.record name known setField default (.table entries) = .ok a := by
  have kept : entries.filter (fun entry => known.contains entry.1) = entries :=
    List.filter_eq_self.mpr fun entry member => by simpa using all entry member
  simp only [Decode.record, Decode.fields, kept, bind_eq_ok, Except.ok.injEq]
  refine ⟨entries, rfl, ?_⟩
  clear all kept
  induction entries generalizing default with
  | nil => exact set
  | cons entry rest ih =>
    rw [List.foldlM_cons] at set ⊢
    obtain ⟨next, first, later⟩ := bind_eq_ok.mp set
    exact bind_eq_ok.mpr ⟨next, within_eq_ok.mpr first, ih later⟩

theorem foldlM_optionalEntry (setField : String → TomlValue → α → Except DecodeFailure α) (a : α)
    (update : β → α) (written : optionalEntry key encode b? = .ok entries)
    (set : ∀ b v, encode b = .ok v → setField key v a = .ok (update b)) :
    entries.foldlM (fun a entry => setField entry.1 entry.2 a) a = .ok (b?.elim a update) := by
  cases b? with
  | none =>
    cases written
    rfl
  | some b =>
    obtain ⟨v, encoded, same⟩ := bind_eq_ok.mp written
    cases same
    simp only [List.foldlM_cons, List.foldlM_nil, bind_eq_ok]
    exact ⟨_, set b v encoded, rfl⟩

end
end Toml

namespace FilterRule

mutual

/-- All bounds on lengths in a rule and in the rules that it is made of. -/
def bounds : FilterRule → List Nat
  | .length r => r.min.toList ++ r.max.toList
  | .all rules => boundsOfAll rules
  | .any rules => boundsOfAll rules
  | .not rule => bounds rule
  | _ => []

def boundsOfAll : List FilterRule → List Nat
  | [] => []
  | rule :: rules => bounds rule ++ boundsOfAll rules

end

end FilterRule

namespace LengthRange

theorem toToml_eq_ok {r : LengthRange} {v : TomlValue} :
    r.toToml = .ok v ↔ ∃ least greatest, Toml.optionalEntry "min" Toml.natural r.min = .ok least ∧
      Toml.optionalEntry "max" Toml.natural r.max = .ok greatest ∧ .table (least ++ greatest) = v := by
  simp [toToml, bind_eq_ok, pure, Except.pure]

theorem exists_toToml_iff {r : LengthRange} :
    (∃ v, r.toToml = .ok v) ↔ ∀ n ∈ r.min.toList ++ r.max.toList, n ≤ Toml.largest := by
  have entry (key : String) (bound? : Option Nat) :
      (∃ entries, Toml.optionalEntry key Toml.natural bound? = .ok entries) ↔
        ∀ n ∈ bound?.toList, n ≤ Toml.largest := by
    rw [Toml.exists_optionalEntry_iff]
    simp [Toml.natural_eq_ok]
  rw [List.forall_mem_append, ← entry "min", ← entry "max"]
  constructor
  · rintro ⟨v, written⟩
    obtain ⟨least, greatest, first, second, _⟩ := toToml_eq_ok.mp written
    exact ⟨⟨least, first⟩, greatest, second⟩
  · rintro ⟨⟨least, first⟩, greatest, second⟩
    exact ⟨_, toToml_eq_ok.mpr ⟨least, greatest, first, second, rfl⟩⟩

theorem ofToml_toToml {r : LengthRange} {v : TomlValue} (written : r.toToml = .ok v) :
    ofToml v = .ok r := by
  obtain ⟨least, greatest, first, second, rfl⟩ := toToml_eq_ok.mp written
  refine Toml.record_eq_ok ?_ ?_
  · intro entry member
    rcases List.mem_append.mp member with member | member
    · rw [Toml.key_of_mem_optionalEntry first member]
      decide
    · rw [Toml.key_of_mem_optionalEntry second member]
      decide
  · have setMin := Toml.foldlM_optionalEntry setField {} (fun n => { min := some n }) first
      fun n v encoded => by
        simp [setField, Toml.Decode.size, Toml.decode_natural encoded, bind, Except.bind, pure,
          Except.pure]
    have setMax := Toml.foldlM_optionalEntry setField (r.min.elim {} fun n => { min := some n })
      (fun n => ⟨r.min, some n⟩) second fun n v encoded => by
        cases r.min <;>
          simp [setField, Toml.Decode.size, Toml.decode_natural encoded, bind, Except.bind, pure,
            Except.pure]
    rw [List.foldlM_append, setMin]
    refine setMax.trans (congrArg Except.ok ?_)
    obtain ⟨min, max⟩ := r
    cases min <;> cases max <;> rfl

theorem plain_toToml {r : LengthRange} {v : TomlValue} (written : r.toToml = .ok v) :
    v.plain = v := by
  obtain ⟨least, greatest, first, second, rfl⟩ := toToml_eq_ok.mp written
  have numbers (n : Nat) (v : TomlValue) : Toml.natural n = .ok v → v.plain = v := Toml.plain_natural
  rw [TomlValue.plain, TomlValue.plainMembers_append, Toml.plain_optionalEntry numbers first,
    Toml.plain_optionalEntry numbers second]

theorem steady_ofToml : Steady ofToml := Steady.record fun _ _ =>
  .ite (.bind (.natural _ _)) (.ite (.bind (.natural _ _)) (.const _))

end LengthRange

namespace FilterRule

theorem toTomls_cons_eq_ok {rule : FilterRule} {rules : List FilterRule} {vs : List TomlValue} :
    toTomls (rule :: rules) = .ok vs ↔
      ∃ v rest, rule.toToml = .ok v ∧ toTomls rules = .ok rest ∧ v :: rest = vs := by
  simp [toTomls, bind_eq_ok, pure, Except.pure]

mutual

theorem exists_toToml_iff : (rule : FilterRule) →
    ((∃ v, rule.toToml = .ok v) ↔ ∀ n ∈ rule.bounds, n ≤ Toml.largest)
  | .protocol _ | .port _ | .host _ => by simp [toToml, bounds]
  | .length r => by
    simp only [toToml, bounds, ← r.exists_toToml_iff]
    exact Toml.exists_map_iff
  | .all rules | .any rules => by
    simp only [toToml, bounds, ← exists_toTomls_iff rules]
    exact Toml.exists_map_iff
  | .not rule => by
    simp only [toToml, bounds, ← exists_toToml_iff rule]
    exact Toml.exists_map_iff

theorem exists_toTomls_iff : (rules : List FilterRule) →
    ((∃ vs, toTomls rules = .ok vs) ↔ ∀ n ∈ boundsOfAll rules, n ≤ Toml.largest)
  | [] => by simp [toTomls, boundsOfAll]
  | rule :: rules => by
    simp only [boundsOfAll, List.forall_mem_append, ← exists_toToml_iff rule,
      ← exists_toTomls_iff rules]
    constructor
    · rintro ⟨vs, written⟩
      obtain ⟨v, rest, first, later, _⟩ := toTomls_cons_eq_ok.mp written
      exact ⟨⟨v, first⟩, rest, later⟩
    · rintro ⟨⟨v, first⟩, rest, later⟩
      exact ⟨_, toTomls_cons_eq_ok.mpr ⟨v, rest, first, later, rfl⟩⟩

end

theorem decode_protocol (p : Protocol) : Protocol.ofToml (.string p.name) = .ok p := by
  cases p <;> rfl

theorem decode_port (n : UInt16) : Toml.Decode.word16 (.integer n.toNat) = .ok n :=
  bind_eq_ok.mpr ⟨n.toNat, Toml.decode_integer n.toNat_lt _, congrArg Except.ok UInt16.ofNat_toNat⟩

theorem decode_host (a : IpAddress) : IpAddress.ofToml (.string a.text) = .ok a := by
  simp [IpAddress.ofToml, Toml.Decode.string, IpAddress.ofText?_text, bind, Except.bind, pure, Except.pure]

theorem ofToml_single {kind : String} {content : TomlValue} {r : FilterRule} :
    ofToml (.table [(kind, content)]) = .ok r ↔ ofContent kind content = .ok r := by
  rw [ofToml, within_eq_ok]

mutual

theorem ofToml_toToml : (rule : FilterRule) → (v : TomlValue) → rule.toToml = .ok v → ofToml v = .ok rule
  | .protocol p, v, written => by
    cases written
    simpa [ofToml_single, ofContent] using map_eq_ok.mpr ⟨p, decode_protocol p, rfl⟩
  | .port n, v, written => by
    cases written
    simpa [ofToml_single, ofContent] using map_eq_ok.mpr ⟨n, decode_port n, rfl⟩
  | .host a, v, written => by
    cases written
    simpa [ofToml_single, ofContent] using map_eq_ok.mpr ⟨a, decode_host a, rfl⟩
  | .length r, v, written => by
    obtain ⟨inner, first, same⟩ := bind_eq_ok.mp written
    cases same
    simpa [ofToml_single, ofContent] using
      map_eq_ok.mpr ⟨r, LengthRange.ofToml_toToml first, rfl⟩
  | .all rules, v, written => by
    obtain ⟨inner, first, same⟩ := bind_eq_ok.mp written
    cases same
    have items : ofSequence (.array inner) = .ok rules := by
      rw [ofSequence, ofItems_toTomls rules 0 inner first]
    simpa [ofToml_single, ofContent] using map_eq_ok.mpr ⟨rules, items, rfl⟩
  | .any rules, v, written => by
    obtain ⟨inner, first, same⟩ := bind_eq_ok.mp written
    cases same
    have items : ofSequence (.array inner) = .ok rules := by
      rw [ofSequence, ofItems_toTomls rules 0 inner first]
    simpa [ofToml_single, ofContent] using map_eq_ok.mpr ⟨rules, items, rfl⟩
  | .not rule, v, written => by
    obtain ⟨inner, first, same⟩ := bind_eq_ok.mp written
    cases same
    simpa [ofToml_single, ofContent] using map_eq_ok.mpr ⟨rule, ofToml_toToml rule inner first, rfl⟩

theorem ofItems_toTomls : (rules : List FilterRule) → (index : Nat) → (vs : List TomlValue) →
    toTomls rules = .ok vs → ofItems index vs = .ok rules
  | [], _, _, written => by
    cases written
    simp [ofItems]
  | rule :: rules, index, _, written => by
    obtain ⟨v, rest, first, later, rfl⟩ := toTomls_cons_eq_ok.mp written
    simp only [ofItems, bind_eq_ok, within_eq_ok]
    exact ⟨rule, ofToml_toToml rule v first, rules, ofItems_toTomls rules (index + 1) rest later, rfl⟩

end

mutual

theorem plain_toToml : (rule : FilterRule) → (v : TomlValue) → rule.toToml = .ok v → v.plain = v
  | .protocol _, _, written | .port _, _, written | .host _, _, written => by
    cases written
    rfl
  | .length r, _, written => by
    obtain ⟨inner, first, same⟩ := bind_eq_ok.mp written
    cases same
    simp [TomlValue.plain, TomlValue.plainMembers, LengthRange.plain_toToml first]
  | .all rules, _, written | .any rules, _, written => by
    obtain ⟨inner, first, same⟩ := bind_eq_ok.mp written
    cases same
    simp [TomlValue.plain, TomlValue.plainMembers, plain_toTomls rules inner first]
  | .not rule, _, written => by
    obtain ⟨inner, first, same⟩ := bind_eq_ok.mp written
    cases same
    simp [TomlValue.plain, TomlValue.plainMembers, plain_toToml rule inner first]

theorem plain_toTomls : (rules : List FilterRule) → (vs : List TomlValue) → toTomls rules = .ok vs →
    TomlValue.plainItems vs = vs
  | [], _, written => by
    cases written
    rfl
  | rule :: rules, _, written => by
    obtain ⟨v, rest, first, later, rfl⟩ := toTomls_cons_eq_ok.mp written
    simp [TomlValue.plainItems, plain_toToml rule v first, plain_toTomls rules rest later]

end

theorem ite_eq_ok {ε α : Type} {p : Prop} [Decidable p] {x x' y y' : Except ε α} {a : α}
    (first : x = .ok a → x' = .ok a) (second : y = .ok a → y' = .ok a)
    (found : (if p then x else y) = .ok a) : (if p then x' else y') = .ok a := by
  split at found
  case isTrue holds => rw [if_pos holds, first found]
  case isFalse fails => rw [if_neg fails, second found]

theorem ofContent_of_plain {kind : String} {v : TomlValue}
    (rule : ∀ r, ofToml v.plain = .ok r → ofToml v = .ok r)
    (rules : ∀ rs, ofSequence v.plain = .ok rs → ofSequence v = .ok rs) {r : FilterRule}
    (found : ofContent kind v.plain = .ok r) : ofContent kind v = .ok r := by
  have protocol : Steady Protocol.ofToml := .bind (.nameOnly _)
  have port : Steady Toml.Decode.word16 := .bind (.natural _ _)
  have host : Steady IpAddress.ofToml := .bind (.string _)
  have whole : ((ofSequence v.plain).map .all = .ok r → (ofSequence v).map .all = .ok r) ∧
      ((ofSequence v.plain).map .any = .ok r → (ofSequence v).map .any = .ok r) ∧
      ((ofToml v.plain).map .not = .ok r → (ofToml v).map .not = .ok r) := by
    simp only [map_eq_ok]
    exact ⟨fun ⟨rs, first, same⟩ => ⟨rs, rules rs first, same⟩,
      fun ⟨rs, first, same⟩ => ⟨rs, rules rs first, same⟩,
      fun ⟨part, first, same⟩ => ⟨part, rule part first, same⟩⟩
  obtain ⟨all, any, not⟩ := whole
  simp only [ofContent] at found ⊢
  exact ite_eq_ok (protocol.map v r) (ite_eq_ok (port.map v r) (ite_eq_ok (host.map v r)
    (ite_eq_ok (LengthRange.steady_ofToml.map v r) (ite_eq_ok all (ite_eq_ok any (ite_eq_ok not id))))))
    found

mutual

theorem steady_ofToml : (v : TomlValue) → ∀ r, ofToml v.plain = .ok r → ofToml v = .ok r
  | .table [(kind, content)], r, found => by
    simp only [TomlValue.plain, TomlValue.plainMembers, ofToml, within_eq_ok] at found ⊢
    exact ofContent_of_plain (steady_ofToml content) (steady_ofSequence content) found
  | .table [], _, found => found
  | .table (_ :: _ :: _), _, found => by
    simp only [TomlValue.plain, TomlValue.plainMembers, ofToml] at found
    cases found
  | .string _, _, found | .integer _, _, found | .float _, _, found | .boolean _, _, found
  | .datetime _, _, found => found
  | .array _, _, found | .headed _, _, found => by
    simp only [TomlValue.plain, ofToml] at found
    cases found

theorem steady_ofSequence : (v : TomlValue) → ∀ rs, ofSequence v.plain = .ok rs → ofSequence v = .ok rs
  | .array vs, rs, found | .headed vs, rs, found => by
    simp only [TomlValue.plain, ofSequence] at found ⊢
    exact steady_ofItems vs 0 rs found
  | .table _, _, found => by
    simp only [TomlValue.plain, ofSequence] at found
    cases found
  | .string _, _, found | .integer _, _, found | .float _, _, found | .boolean _, _, found
  | .datetime _, _, found => found

theorem steady_ofItems : (vs : List TomlValue) → (index : Nat) → ∀ rs,
    ofItems index (TomlValue.plainItems vs) = .ok rs → ofItems index vs = .ok rs
  | [], _, _, found => found
  | v :: vs, index, _, found => by
    simp only [TomlValue.plainItems, ofItems, bind_eq_ok, within_eq_ok] at found ⊢
    obtain ⟨rule, first, rules, later, same⟩ := found
    exact ⟨rule, steady_ofToml v rule first, rules, steady_ofItems vs (index + 1) rules later, same⟩

end

end FilterRule

end CaptureQueue
