import CaptureQueue.Text.Reader

/-! What readers can find, whatever text they are given. -/

set_option autoImplicit false
namespace CaptureQueue.Text.Reader

variable {α β : Type}

/-- All that the reader can find is of some kind. -/
def Yields (P : α → Prop) (r : Reader α) : Prop := ∀ s a rest, r s = some (a, rest) → P a

namespace Yields

variable {P : α → Prop} {Q : β → Prop} {r r' : Reader α} {f : α → Reader β}

theorem bind (h : Yields P r) (next : ∀ a, P a → Yields Q (f a)) : Yields Q (r >>= f) := by
  intro s b rest found
  obtain ⟨⟨a, later⟩, first, second⟩ := Option.bind_eq_some_iff.mp found
  exact next a (h s a later first) later b rest second

theorem after (next : ∀ a, Yields Q (f a)) : Yields Q (r >>= f) := by
  have anything : Yields (fun _ => True) r := fun _ _ _ _ => trivial
  exact anything.bind fun a _ => next a

theorem pure {a : α} (h : P a) : Yields P (Pure.pure a : Reader α) := by
  intro s b rest found
  cases found
  exact h

theorem failure : Yields P (failure : Reader α) := by
  intro s a rest found
  cases found

theorem ite {p : Prop} [Decidable p] (h : p → Yields P r) (h' : ¬ p → Yields P r') :
    Yields P (if p then r else r') := by
  split
  case isTrue holds => exact h holds
  case isFalse fails => exact h' fails

theorem orElse (h : Yields P r) (h' : Yields P r') : Yields P (r <|> r') := by
  intro s a rest found
  have either : (r s <|> r' s) = some (a, rest) := found
  cases first : r s with
  | some found =>
    rw [first] at either
    exact h s a rest (first.trans either)
  | none =>
    rw [first] at either
    exact h' s a rest either

theorem map {g : α → β} (h : Yields (fun a => Q (g a)) r) : Yields Q (g <$> r) := by
  intro s b rest found
  obtain ⟨⟨a, later⟩, first, same⟩ := Option.bind_eq_some_iff.mp found
  cases same
  exact h s a rest first

theorem optional (h : Yields P r) : Yields (fun found => ∀ a ∈ found, P a) (optional r) := by
  refine orElse (map ?_) (pure (by simp))
  simpa using h

theorem manyWithin (h : Yields P r) (fuel : Nat) :
    Yields (fun found => ∀ a ∈ found, P a) (Reader.manyWithin r fuel) := by
  induction fuel with
  | zero => exact pure (by simp)
  | succ fuel ih =>
    refine h.optional.bind fun first holds => ?_
    cases first with
    | none => exact pure (by simp)
    | some a => exact ih.bind fun rest later => pure (List.forall_mem_cons.mpr ⟨holds a rfl, later⟩)

theorem many (h : Yields P r) : Yields (fun found => ∀ a ∈ found, P a) (Reader.many r) :=
  fun s => h.manyWithin s.length s

theorem separated (h : Yields P r) (separator : Reader Unit) :
    Yields (fun found => ∀ a ∈ found, P a) (Reader.separated separator r) := by
  refine h.optional.bind fun first holds => ?_
  cases first with
  | none => exact pure (by simp)
  | some a =>
    have more : Yields P (do separator; r) := after fun _ => h
    exact more.many.bind fun rest later => pure (List.forall_mem_cons.mpr ⟨holds a rfl, later⟩)

theorem spanned (h : Yields P r) : Yields (fun found => P found.1) (Reader.spanned r) := by
  intro s found rest read
  obtain ⟨⟨a, later⟩, first, same⟩ := Option.bind_eq_some_iff.mp read
  cases same
  exact h s a rest first

theorem whole? (h : Yields P r) {text : String} {a : α} (found : Reader.whole? r text = some a) :
    P a := by
  have kept : Yields P (do let a ← r; atEnd; return a) :=
    h.bind fun a holds => after fun _ => pure holds
  obtain ⟨⟨a, rest⟩, read, rfl⟩ := Option.map_eq_some_iff.mp found
  exact kept text.toList a rest read

end Yields
end CaptureQueue.Text.Reader
