import CaptureQueue.Proofs.Config.RoundTrip
import CaptureQueue.Proofs.Toml.Bounded

/-! The numbers of a configuration that was read. Those of a document are in range and a decoder makes
none that are larger, so that all of them can be written. -/

set_option autoImplicit false
namespace CaptureQueue

open Toml.Decode (within_eq_ok)

namespace Toml.Decode

variable {α β : Type}

/-- What the decoder makes of a value whose integers are in range is of some kind. -/
def Gives (P : α → Prop) (decode : Decoder α) : Prop := ∀ v a, v.Bounded → decode v = .ok a → P a

namespace Gives

variable {P : α → Prop} {Q : β → Prop} {decode other : Decoder α}

theorem const {a : α} (h : P a) : Gives P fun _ => .ok a := by
  intro v b _ found
  cases found
  exact h

theorem ite {p : Prop} [Decidable p] (h : Gives P decode) (h' : Gives P other) :
    Gives P fun v => if p then decode v else other v := by
  split
  · exact h
  · exact h'

theorem set {f : α → β} (h : Gives P decode) (keeps : ∀ a, P a → Q (f a)) :
    Gives Q fun v => decode v >>= fun a => pure (f a) := by
  intro v b bounded found
  obtain ⟨a, first, same⟩ := bind_eq_ok.mp found
  cases same
  exact keeps a (h v a bounded first)

theorem setOther {f : α → β} (keeps : ∀ a, Q (f a)) :
    Gives Q fun v => decode v >>= fun a => pure (f a) :=
  set (P := fun _ => True) (fun _ _ _ _ => trivial) fun a _ => keeps a

theorem natural (limit : Nat) (expected : String) :
    Gives (· ≤ largest) (Decode.natural limit expected) := by
  intro v n bounded found
  cases bounded with
  | integer inRange =>
    simp only [Decode.natural] at found
    split at found
    · cases found
      exact Int.toNat_le.mpr inRange
    · cases found
  | _ => cases found

theorem itemsFrom (h : Gives P decode) {vs : List TomlValue} (bounded : ∀ v ∈ vs, v.Bounded)
    {index : Nat} {as : List α} (found : Decode.itemsFrom decode index vs = .ok as) :
    ∀ a ∈ as, P a := by
  induction vs generalizing index as with
  | nil =>
    cases found
    simp
  | cons v vs ih =>
    obtain ⟨here, later⟩ := List.forall_mem_cons.mp bounded
    simp only [Decode.itemsFrom, bind_eq_ok, within_eq_ok] at found
    obtain ⟨a, first, rest, more, same⟩ := found
    cases same
    exact List.forall_mem_cons.mpr ⟨h v a here first, ih later more⟩

theorem sequence (h : Gives P decode) : Gives (fun as => ∀ a ∈ as, P a) (Decode.sequence decode) := by
  intro v as bounded found
  cases bounded with
  | array each | headed each => exact h.itemsFrom each found
  | _ => cases found

theorem fields (name : String) (known : List String) :
    Gives (fun entries => ∀ entry ∈ entries, entry.2.Bounded) (Decode.fields name known) := by
  intro v entries bounded found
  cases bounded with
  | table each =>
    cases found
    exact fun entry member => each entry (List.mem_filter.mp member).1
  | array each | headed each =>
    cases found
    exact fun entry member => each entry.2 (List.of_mem_zip member).2
  | datetime _ =>
    cases found
    simp
  | _ => cases found

/-- What holds of a record by default and is kept by each field holds of what is decoded. -/
theorem record {name : String} {known : List String}
    {setField : String → TomlValue → α → Except DecodeFailure α} {default : α} (start : P default)
    (keeps : ∀ key a, P a → Gives P fun v => setField key v a) :
    Gives P (Decode.record name known setField default) := by
  intro v a bounded found
  obtain ⟨entries, given, folded⟩ := bind_eq_ok.mp found
  have each := fields name known v entries bounded given
  clear given found
  induction entries generalizing default with
  | nil =>
    cases folded
    exact start
  | cons entry rest ih =>
    obtain ⟨here, later⟩ := List.forall_mem_cons.mp each
    obtain ⟨next, first, folded⟩ := bind_eq_ok.mp folded
    exact ih (keeps entry.1 default start entry.2 next here (within_eq_ok.mp first)) folded later

end Gives
end Toml.Decode

open Toml.Decode (Gives)

namespace LengthRange

theorem gives_ofToml :
    Gives (fun r : LengthRange => ∀ n ∈ r.min.toList ++ r.max.toList, n ≤ Toml.largest) ofToml := by
  refine .record (by simp) fun key r fits => ?_
  simp only [List.forall_mem_append] at fits ⊢
  exact .ite (.set (.natural _ _) fun n inRange => ⟨by simpa using inRange, fits.2⟩)
    (.ite (.set (.natural _ _) fun n inRange => ⟨fits.1, by simpa using inRange⟩) (.const fits))

end LengthRange

namespace FilterRule

def Fits (rule : FilterRule) : Prop := ∀ n ∈ rule.bounds, n ≤ Toml.largest

theorem fits_boundsOfAll {rules : List FilterRule} (each : ∀ rule ∈ rules, rule.Fits) :
    ∀ n ∈ boundsOfAll rules, n ≤ Toml.largest := by
  induction rules with
  | nil => simp [boundsOfAll]
  | cons rule rules ih =>
    obtain ⟨here, later⟩ := List.forall_mem_cons.mp each
    exact List.forall_mem_append.mpr ⟨here, ih later⟩

theorem of_ite_eq_ok {ε α : Type} {p c : Prop} [Decidable p] {x y : Except ε α} {a : α}
    (first : x = .ok a → c) (second : y = .ok a → c) (found : (if p then x else y) = .ok a) : c := by
  split at found
  · exact first found
  · exact second found

theorem fits_ofContent {kind : String} {v : TomlValue} (bounded : v.Bounded)
    (rule : ∀ r, ofToml v = .ok r → r.Fits)
    (rules : ∀ rs, ofSequence v = .ok rs → ∀ r ∈ rs, r.Fits) {r : FilterRule}
    (found : ofContent kind v = .ok r) : r.Fits := by
  have unbounded {α : Type} {x : Except DecodeFailure α} {f : α → FilterRule}
      (none : ∀ a, (f a).bounds = []) (found : x.map f = .ok r) : r.Fits := by
    obtain ⟨a, _, rfl⟩ := map_eq_ok.mp found
    simp [Fits, none]
  rw [ofContent] at found
  refine of_ite_eq_ok (unbounded fun _ => rfl) (of_ite_eq_ok (unbounded fun _ => rfl)
    (of_ite_eq_ok (unbounded fun _ => rfl) (of_ite_eq_ok ?length (of_ite_eq_ok ?all
      (of_ite_eq_ok ?any (of_ite_eq_ok ?not ?unknown)))))) found
  case length =>
    intro found
    obtain ⟨range, first, rfl⟩ := map_eq_ok.mp found
    exact LengthRange.gives_ofToml v range bounded first
  case all | any =>
    intro found
    obtain ⟨parts, first, rfl⟩ := map_eq_ok.mp found
    exact fits_boundsOfAll (rules parts first)
  case not =>
    intro found
    obtain ⟨part, first, rfl⟩ := map_eq_ok.mp found
    exact rule part first
  case unknown =>
    intro found
    cases found

mutual

theorem gives_ofToml : (v : TomlValue) → v.Bounded → ∀ r, ofToml v = .ok r → r.Fits
  | .table [(kind, content)], bounded, r, found => by
    have inner : content.Bounded := by
      cases bounded with
      | table each => exact each (kind, content) (List.mem_singleton_self _)
    rw [ofToml, within_eq_ok] at found
    exact fits_ofContent inner (gives_ofToml content inner) (gives_ofSequence content inner) found
  | .string s, _, _, found => by
    simp only [ofToml] at found
    split at found <;> cases found
  | .table [], _, _, found | .table (_ :: _ :: _), _, _, found | .integer _, _, _, found
  | .float _, _, _, found | .boolean _, _, _, found | .datetime _, _, _, found
  | .array _, _, _, found | .headed _, _, _, found => by
    simp only [ofToml] at found
    cases found

theorem gives_ofSequence : (v : TomlValue) → v.Bounded → ∀ rs, ofSequence v = .ok rs →
    ∀ r ∈ rs, r.Fits
  | .array vs, .array each, rs, found | .headed vs, .headed each, rs, found => by
    simp only [ofSequence] at found
    exact gives_ofItems vs each 0 rs found
  | .table _, _, _, found | .string _, _, _, found | .integer _, _, _, found
  | .float _, _, _, found | .boolean _, _, _, found | .datetime _, _, _, found => by
    simp only [ofSequence] at found
    cases found

theorem gives_ofItems : (vs : List TomlValue) → (∀ v ∈ vs, v.Bounded) → (index : Nat) → ∀ rs,
    ofItems index vs = .ok rs → ∀ r ∈ rs, r.Fits
  | [], _, _, _, found => by
    rw [ofItems] at found
    cases found
    simp
  | v :: vs, each, index, _, found => by
    obtain ⟨here, later⟩ := List.forall_mem_cons.mp each
    simp only [ofItems, bind_eq_ok, within_eq_ok] at found
    obtain ⟨rule, first, rules, more, same⟩ := found
    cases same
    exact List.forall_mem_cons.mpr
      ⟨gives_ofToml v here rule first, gives_ofItems vs later (index + 1) rules more⟩

end

end FilterRule

namespace NamedRule

theorem gives_ofToml : Gives (fun f : NamedRule => f.rule.Fits) ofToml := by
  have fields : Gives (fun p : Partial => ∀ rule ∈ p.rule, rule.Fits)
      (Toml.Decode.record "FilterConfig" ["name", "rule"] setField {}) := by
    refine .record (by simp) fun key p fits => .ite (.setOther fun _ => fits) (.ite ?_ (.const fits))
    exact .set (fun v rule bounded found => FilterRule.gives_ofToml v bounded rule found)
      fun rule ruleFits => by simpa using ruleFits
  intro v f bounded found
  obtain ⟨p, first, found⟩ := bind_eq_ok.mp found
  have fits := fields v p bounded first
  match p, found with
  | ⟨some name, some rule⟩, found =>
    cases found
    exact fits rule rfl
  | ⟨none, _⟩, found | ⟨some _, none⟩, found =>
    dsimp only at found
    split at found <;> cases found

end NamedRule

namespace CaptureSettings

theorem gives_ofToml : Gives (fun s : CaptureSettings =>
    s.snaplen ≤ Toml.largest ∧ s.readTimeout ≤ Toml.largest) ofToml :=
  .record (by decide) fun _ _ fits => .ite (.setOther fun _ => fits) (.ite (.setOther fun _ => fits)
    (.ite (.set (.natural _ _) fun _ inRange => ⟨inRange, fits.2⟩)
      (.ite (.set (.natural _ _) fun _ inRange => ⟨fits.1, inRange⟩) (.const fits))))

end CaptureSettings

namespace QueueSettings

theorem gives_ofToml : Gives (fun s : QueueSettings => s.capacity ≤ Toml.largest) ofToml :=
  .record (by decide) fun _ _ fits => .ite (.set (.natural _ _) fun _ inRange => inRange)
    (.ite (.setOther fun _ => fits) (.const fits))

end QueueSettings

namespace Config

theorem numbers_le_iff {c : Config} : (∀ n ∈ c.numbers, n ≤ Toml.largest) ↔
    (c.capture.snaplen ≤ Toml.largest ∧ c.capture.readTimeout ≤ Toml.largest) ∧
      c.queue.capacity ≤ Toml.largest ∧ ∀ f ∈ c.filters, f.rule.Fits := by
  have filters : (∀ n ∈ c.filters.flatMap (·.rule.bounds), n ≤ Toml.largest) ↔
      ∀ f ∈ c.filters, f.rule.Fits := by
    simp only [List.mem_flatMap, forall_exists_index, and_imp]
    exact ⟨fun h f member n => h n f member, fun h n f member => h f member n⟩
  rw [numbers, List.forall_mem_append, filters]
  simp [and_assoc]

theorem gives_ofToml : Gives (fun c : Config => ∀ n ∈ c.numbers, n ≤ Toml.largest) ofToml := by
  simp only [numbers_le_iff]
  exact .record ⟨by decide, by decide, by simp⟩ fun _ _ fits =>
    .ite (.set CaptureSettings.gives_ofToml fun _ sizes => ⟨sizes, fits.2⟩)
      (.ite (.set QueueSettings.gives_ofToml fun _ size => ⟨fits.1, size, fits.2.2⟩)
        (.ite (.set NamedRule.gives_ofToml.sequence fun _ each => ⟨fits.1, fits.2.1, each⟩)
          (.ite (.setOther fun _ => fits) (.const fits))))

theorem ofToml_of_ofText {s : String} {c : Config} (read : ofText s = .ok c) :
    ∃ members, Toml.document? s = some members ∧
      ofToml (.table (Toml.Located.memberValues members)) = .ok c := by
  unfold ofText at read
  split at read
  case h_1 => cases read
  case h_2 members document =>
    dsimp only at read
    split at read
    case h_1 decoded =>
      cases read
      exact ⟨members, document, decoded⟩
    case h_2 | h_3 => cases read

/-- Whatever is read from a text can be written, as far as its numbers go. -/
theorem numbers_of_ofText {s : String} {c : Config} (read : ofText s = .ok c) :
    ∀ n ∈ c.numbers, n ≤ Toml.largest := by
  obtain ⟨members, document, decoded⟩ := ofToml_of_ofText read
  exact gives_ofToml _ c (Toml.bounded_document document) decoded

end Config
end CaptureQueue
