import CaptureQueue.Proofs.Toml.Plain

/-! Tables with some of their keys taken out and keys that nobody knows put in. A record whose fields
are set one by one keeps what the keys that are left say of it, and its defaults for the rest. -/

set_option autoImplicit false
namespace CaptureQueue.Toml

open Decode (within_eq_ok)

@[simp] theorem ok_bind {ε α β : Type} (a : α) (f : α → Except ε β) :
    (Except.ok a >>= f) = f a := rfl

@[simp] theorem pure_eq_ok {ε α : Type} (a : α) : (pure a : Except ε α) = .ok a := rfl

/-- Of the known keys a revised table has those of the first that are kept, in any order, each with a
value that may stand for the one it had. Any other keys may be in it. -/
structure Revised (known : List String) (kept : String → Bool)
    (MayStand : String → TomlValue → TomlValue → Prop) (members revised : List (String × TomlValue)) :
    Prop where
  present : ∀ entry ∈ members, kept entry.1 = true → ∃ v', (entry.1, v') ∈ revised
  original : ∀ entry ∈ revised, entry.1 ∈ known →
    kept entry.1 = true ∧ ∃ v, (entry.1, v) ∈ members ∧ MayStand entry.1 v entry.2

def unchanged (_ : String) (v v' : TomlValue) : Prop := v' = v

def including (key : String) (seen : String → Bool) : String → Bool :=
  fun other => other == key || seen other

section

variable {α : Type} {name : String} {known : List String}
  {setField : String → TomlValue → α → Except DecodeFailure α} {default a b : α}
  {members before middle middle' after : List (String × TomlValue)}

/-- A record in its fields: what is made of it once some of the keys that it is written as have been
seen. -/
structure Fieldwise (known : List String)
    (setField : String → TomlValue → α → Except DecodeFailure α) (default : α)
    (MayStand : String → TomlValue → TomlValue → Prop) (members : List (String × TomlValue))
    (select : (String → Bool) → α) : Prop where
  known : ∀ entry ∈ members, entry.1 ∈ known
  none : select (fun _ => false) = default
  set : ∀ key v v' seen, (key, v) ∈ members → MayStand key v v' →
    setField key v' (select seen) = .ok (select (including key seen))
  congr : ∀ seen seen', (∀ entry ∈ members, seen entry.1 = seen' entry.1) →
    select seen = select seen'

def setKnown (known : List String) (setField : String → TomlValue → α → Except DecodeFailure α) (a : α)
    (members : List (String × TomlValue)) : Except DecodeFailure α :=
  (members.filter (known.contains ·.1)).foldlM (fun a entry => setField entry.1 entry.2 a) a

theorem record_eq_ok_iff : Decode.record name known setField default (.table members) = .ok a ↔
    setKnown known setField default members = .ok a := by
  simp only [Decode.record, Decode.fields, bind_eq_ok, Except.ok.injEq, exists_eq_left', setKnown]
  generalize members.filter (known.contains ·.1) = entries
  induction entries generalizing default with
  | nil => exact .rfl
  | cons entry rest ih =>
    simp only [List.foldlM_cons, bind_eq_ok, within_eq_ok, ih]

theorem setKnown_append : setKnown known setField a (before ++ after) =
    setKnown known setField a before >>= fun b => setKnown known setField b after := by
  simp only [setKnown, List.filter_append, List.foldlM_append]

theorem setKnown_singleton {key : String} (present : key ∈ known) (v : TomlValue) :
    setKnown known setField a [(key, v)] = setField key v a := by
  have only : [(key, v)].filter (known.contains ·.1) = [(key, v)] := by simpa using present
  rw [setKnown, only, List.foldlM_cons]
  cases setField key v a <;> rfl

/-! ## Keys left out -/

theorem Fieldwise.foldlM {MayStand : String → TomlValue → TomlValue → Prop}
    {select : (String → Bool) → α} (h : Fieldwise known setField default MayStand members select)
    {entries : List (String × TomlValue)}
    (each : ∀ entry ∈ entries, ∃ v, (entry.1, v) ∈ members ∧ MayStand entry.1 v entry.2)
    (seen : String → Bool) :
    entries.foldlM (fun a entry => setField entry.1 entry.2 a) (select seen) =
      .ok (select fun key => seen key || entries.any (·.1 == key)) := by
  induction entries generalizing seen with
  | nil => simp [pure, Except.pure]
  | cons entry rest ih =>
    obtain ⟨⟨v, written, stands⟩, later⟩ := List.forall_mem_cons.mp each
    have first := h.set entry.1 v entry.2 seen written stands
    rw [List.foldlM_cons, bind_eq_ok]
    refine ⟨_, first, (ih later _).trans ?_⟩
    have same (key : String) : (including entry.1 seen key || rest.any (·.1 == key)) =
        (seen key || (entry :: rest).any (·.1 == key)) := by
      rw [including, List.any_cons, Bool.or_comm (key == entry.1), Bool.or_assoc,
        Bool.beq_comm (a := key)]
    simp only [same]

theorem Fieldwise.record_of_revised {MayStand : String → TomlValue → TomlValue → Prop}
    {select : (String → Bool) → α} {kept : String → Bool} {revised : List (String × TomlValue)}
    (h : Fieldwise known setField default MayStand members select)
    (revision : Revised known kept MayStand members revised) :
    Decode.record name known setField default (.table revised) = .ok (select kept) := by
  rw [record_eq_ok_iff, setKnown, ← h.none]
  have stands (entry : String × TomlValue) (member : entry ∈ revised.filter (known.contains ·.1)) :
      ∃ v, (entry.1, v) ∈ members ∧ MayStand entry.1 v entry.2 := by
    obtain ⟨member, present⟩ := List.mem_filter.mp member
    exact (revision.original entry member (List.contains_iff_mem.mp present)).2
  refine (h.foldlM stands _).trans (congrArg Except.ok (h.congr _ _ fun entry written => ?_))
  rw [Bool.false_or, Bool.eq_iff_iff, List.any_eq_true]
  constructor
  · rintro ⟨other, member, same⟩
    obtain ⟨member, present⟩ := List.mem_filter.mp member
    rw [← beq_iff_eq.mp same]
    exact (revision.original other member (List.contains_iff_mem.mp present)).1
  · intro left
    obtain ⟨v', member⟩ := revision.present entry written left
    have present : known.contains entry.1 = true := List.contains_iff_mem.mpr (h.known entry written)
    exact ⟨(entry.1, v'), List.mem_filter.mpr ⟨member, present⟩, beq_self_eq_true entry.1⟩

/-! ## Another value for one key -/

/-- Whether a field can be set before a change of the record as well as after it. -/
def Apart (update : α → α) (set : α → Except DecodeFailure α) : Prop :=
  ∀ a b, set a = .ok b → set (update a) = .ok (update b)

namespace Apart

variable {update : α → α} {set other : α → Except DecodeFailure α}

theorem const : Apart update fun a => pure a := by
  intro a b found
  cases found
  rfl

theorem bind {β : Type} {decoded : Except DecodeFailure β} {put : α → β → α}
    (commutes : ∀ a x, put (update a) x = update (put a x)) :
    Apart update fun a => decoded >>= fun x => pure (put a x) := by
  intro a b found
  obtain ⟨x, first, same⟩ := bind_eq_ok.mp found
  cases same
  exact bind_eq_ok.mpr ⟨x, first, congrArg Except.ok (commutes a x)⟩

theorem ite_else {p : Prop} [Decidable p] (fails : ¬ p) (h : Apart update other) :
    Apart update fun a => if p then set a else other a := by
  simpa only [if_neg fails] using h

theorem ite {p : Prop} [Decidable p] (h : Apart update set) (h' : Apart update other) :
    Apart update fun a => if p then set a else other a := by
  split
  · exact h
  · exact h'

end Apart

theorem setKnown_update {update : α → α} {key : String}
    (apart : ∀ other v, other ≠ key → Apart update (setField other v))
    (others : ∀ entry ∈ after, entry.1 ≠ key) (found : setKnown known setField a after = .ok b) :
    setKnown known setField (update a) after = .ok (update b) := by
  have others (entry : String × TomlValue) (member : entry ∈ after.filter (known.contains ·.1)) :
      entry.1 ≠ key := others entry (List.mem_filter.mp member).1
  unfold setKnown at found ⊢
  generalize after.filter (known.contains ·.1) = entries at others found ⊢
  induction entries generalizing a with
  | nil =>
    cases found
    rfl
  | cons entry rest ih =>
    obtain ⟨other, later⟩ := List.forall_mem_cons.mp others
    rw [List.foldlM_cons, bind_eq_ok] at found ⊢
    obtain ⟨next, first, found⟩ := found
    exact ⟨update next, apart _ _ other _ _ first, ih later found⟩

/-- Where the entries of a key are exchanged, the record changes as they change it. -/
theorem record_update {update : α → α} {key : String}
    (apart : ∀ other v, other ≠ key → Apart update (setField other v))
    (changed : ∀ a b, setKnown known setField a middle = .ok b →
      setKnown known setField a middle' = .ok (update b))
    (others : ∀ entry ∈ after, entry.1 ≠ key)
    (found : Decode.record name known setField default (.table (before ++ middle ++ after)) = .ok a) :
    Decode.record name known setField default (.table (before ++ middle' ++ after)) = .ok (update a) := by
  simp only [record_eq_ok_iff, setKnown_append, bind_eq_ok] at found ⊢
  obtain ⟨next, ⟨start, first, second⟩, rest⟩ := found
  exact ⟨update next, ⟨start, first, changed start next second⟩, setKnown_update apart others rest⟩

theorem record_ne_ok {key : String} {v : TomlValue} (present : key ∈ known)
    (refused : ∀ a b, setField key v a ≠ .ok b) (a : α) :
    Decode.record name known setField default (.table (before ++ [(key, v)] ++ after)) ≠ .ok a := by
  rw [ne_eq, record_eq_ok_iff]
  simp only [setKnown_append, bind_eq_ok, setKnown_singleton present]
  rintro ⟨next, ⟨start, _, found⟩, _⟩
  exact refused start next found

end
end CaptureQueue.Toml
