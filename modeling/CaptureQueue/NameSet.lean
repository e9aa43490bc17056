/-! Sets of names, listed in the order of their code points. -/

set_option autoImplicit false
namespace CaptureQueue

structure NameSet where
  toList : List String
  ascending : toList.Pairwise (· < ·)
deriving DecidableEq, Repr

namespace NameSet

def insertInto (name : String) : List String → List String
  | [] => [name]
  | other :: rest =>
    if name < other then name :: other :: rest
    else if name = other then other :: rest
    else other :: insertInto name rest

theorem mem_insertInto {name x : String} {names : List String} :
    x ∈ insertInto name names ↔ x = name ∨ x ∈ names := by
  induction names with
  | nil => simp [insertInto]
  | cons other rest ih =>
    unfold insertInto
    split
    · simp
    · split
      · simp_all
      · simp [ih, or_left_comm]

theorem pairwise_insertInto {name : String} {names : List String} (h : names.Pairwise (· < ·)) :
    (insertInto name names).Pairwise (· < ·) := by
  induction names with
  | nil => simp [insertInto]
  | cons other rest ih =>
    obtain ⟨below, ascending⟩ := List.pairwise_cons.1 h
    unfold insertInto
    split
    case isTrue before =>
      refine List.pairwise_cons.2 ⟨fun x hx => ?_, h⟩
      rcases List.mem_cons.1 hx with rfl | hx
      · exact before
      · exact String.lt_trans before (below x hx)
    case isFalse after =>
      split
      · exact h
      case isFalse distinct =>
        refine List.pairwise_cons.2 ⟨fun x hx => ?_, ih ascending⟩
        rcases mem_insertInto.1 hx with rfl | hx
        · exact Decidable.byContradiction fun notBefore =>
            distinct (String.le_antisymm notBefore after)
        · exact below x hx

def empty : NameSet := ⟨[], .nil⟩

def insert (name : String) (s : NameSet) : NameSet :=
  ⟨insertInto name s.toList, pairwise_insertInto s.ascending⟩

def ofList (names : List String) : NameSet := names.foldr insert empty

def contains (s : NameSet) (name : String) : Bool := s.toList.contains name

def isEmpty (s : NameSet) : Bool := s.toList.isEmpty

def size (s : NameSet) : Nat := s.toList.length

theorem mem_toList_ofList {name : String} {names : List String} :
    name ∈ (ofList names).toList ↔ name ∈ names := by
  induction names with
  | nil => simp [ofList, empty]
  | cons other rest ih =>
    rw [List.mem_cons, ← ih]
    exact mem_insertInto

end NameSet
end CaptureQueue
