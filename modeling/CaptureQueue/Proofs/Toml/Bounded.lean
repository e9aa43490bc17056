import CaptureQueue.Proofs.Text.Reader
import CaptureQueue.Toml.Document

/-! The integers of a document. A number out of range is refused where it is read, and whatever keys
and headers make of the values that were read, they make no new ones. -/

set_option autoImplicit false
namespace CaptureQueue

/-- No integer in the value is past the greatest. -/
inductive TomlValue.Bounded : TomlValue → Prop
  | string (s : String) : Bounded (.string s)
  | integer {n : Int} (inRange : n ≤ maxInteger) : Bounded (.integer n)
  | float (x : Float) : Bounded (.float x)
  | boolean (b : Bool) : Bounded (.boolean b)
  | datetime (text : String) : Bounded (.datetime text)
  | array {items : List TomlValue} (each : ∀ v ∈ items, Bounded v) : Bounded (.array items)
  | headed {items : List TomlValue} (each : ∀ v ∈ items, Bounded v) : Bounded (.headed items)
  | table {members : List (String × TomlValue)} (each : ∀ m ∈ members, Bounded m.2) :
    Bounded (.table members)

namespace Toml

open Text (Reader)
open Text.Reader (Yields)

/-! ## What is read -/

namespace Located

theorem values_eq_map (items : List Located) : values items = items.map value := by
  induction items with
  | nil => rfl
  | cons v rest ih => rw [values, ih, List.map_cons]

theorem memberValues_eq_map (members : List (Key × Located)) :
    memberValues members = members.map fun m => (m.1.name, m.2.value) := by
  induction members with
  | nil => rfl
  | cons m rest ih => rw [memberValues, ih, List.map_cons]

def Bounded (v : Located) : Prop := v.value.Bounded

theorem bounded_array {span : Text.Span} {items : List Located} (each : ∀ v ∈ items, v.Bounded) :
    (Located.array span items).Bounded := by
  refine .array ?_
  rw [values_eq_map]
  exact List.forall_mem_map.mpr each

theorem bounded_headed_iff {span : Option Text.Span} {tables : List Located} :
    (Located.headed span tables).Bounded ↔ ∀ v ∈ tables, v.Bounded := by
  rw [Bounded, value, values_eq_map]
  constructor
  · rintro (_ | _ | _ | _ | _ | _ | each | _)
    exact fun v member => each _ (List.mem_map_of_mem member)
  · exact fun each => .headed (List.forall_mem_map.mpr each)

theorem bounded_table_iff {span : Option Text.Span} {members : List (Key × Located)} :
    (Located.table span members).Bounded ↔ ∀ m ∈ members, m.2.Bounded := by
  rw [Bounded, value, memberValues_eq_map]
  constructor
  · rintro (_ | _ | _ | _ | _ | _ | _ | each)
    exact fun m member => each _ (List.mem_map_of_mem member)
  · exact fun each => .table (List.forall_mem_map.mpr each)

end Located

theorem yields_inRange (n : Int) : Yields (· ≤ TomlValue.maxInteger) (inRange n) :=
  .ite (fun inside => .pure (Int.le_sub_one_of_lt inside.2)) fun _ => .failure

theorem yields_integer : Yields (· ≤ TomlValue.maxInteger) integer := by
  have radix (letter : Char) (radix : Nat) :
      Yields (· ≤ TomlValue.maxInteger) (radixInteger letter radix) :=
    .after fun _ => .after fun _ => .after fun _ => yields_inRange _
  have decimal : Yields (· ≤ TomlValue.maxInteger) (do
      let negative ← sign
      let n : Int := Text.valueOf 10 (← decimalDigits)
      inRange (if negative then -n else n)) := .after fun _ => .after fun _ => yields_inRange _
  exact (radix 'x' 16).orElse ((radix 'o' 8).orElse ((radix 'b' 2).orElse decimal))

theorem yields_scalar : Yields TomlValue.Bounded scalar :=
  .orElse (.after fun _ => .pure (.string _)) <|
  .orElse (.after fun _ => .pure (.datetime _)) <|
  .orElse (.after fun _ => .pure (.float _)) <|
  .orElse (yields_integer.bind fun _ inRange => .pure (.integer inRange)) <|
  .after fun _ => .pure (.boolean _)

/-! ## What keys and headers make of it -/

namespace Members

def Bounded (ms : Members) : Prop := ∀ m ∈ ms, m.2.located.Bounded

theorem locatedMembers_eq_map (ms : Members) :
    locatedMembers ms = ms.map fun m => (m.1, m.2.located) := by
  induction ms with
  | nil => rfl
  | cons m rest ih => rw [locatedMembers, ih, List.map_cons]

theorem bounded_locatedMembers_iff {span : Option Text.Span} {ms : Members} :
    (Located.table span (locatedMembers ms)).Bounded ↔ ms.Bounded := by
  rw [Located.bounded_table_iff, locatedMembers_eq_map, List.forall_mem_map]
  rfl

theorem bounded_headed_iff {tables : List (TableOrigin × Members)} :
    (Node.headed tables).located.Bounded ↔ ∀ t ∈ tables, t.2.Bounded := by
  have same : locatedTables tables = tables.map fun t => .table t.1.span? (locatedMembers t.2) := by
    induction tables with
    | nil => rfl
    | cons t rest ih => rw [locatedTables, ih, List.map_cons]
  rw [Node.located, Located.bounded_headed_iff, same, List.forall_mem_map]
  simp only [bounded_locatedMembers_iff]

variable {ms : Members} {key : Key} {node : Node}

theorem bounded_nil : Bounded [] := by simp [Bounded]

theorem Bounded.of_node? (h : ms.Bounded) (found : ms.node? key = some node) :
    node.located.Bounded := by
  obtain ⟨m, first, rfl⟩ := Option.map_eq_some_iff.mp found
  exact h m (List.mem_of_find?_eq_some first)

theorem Bounded.add (h : ms.Bounded) (fits : node.located.Bounded) : (ms.add key node).Bounded :=
  List.forall_mem_append.mpr ⟨h, by simpa using fits⟩

theorem Bounded.replace (h : ms.Bounded) (fits : node.located.Bounded) :
    (ms.replace key node).Bounded := by
  refine List.forall_mem_map.mpr fun m member => ?_
  split
  · exact fits
  · exact h m member

/-- The change puts nothing out of range into a table. -/
def Keeps (change : Change) : Prop :=
  ∀ origin ms origin' ms', Bounded ms → change origin ms = some (origin', ms') → Bounded ms'

theorem keeps_alter (dotted : Bool) {change : Change} (h : Keeps change) (path : List Key) :
    Keeps (alter dotted change path) := by
  induction path with
  | nil => exact h
  | cons key path ih =>
    intro origin ms origin' ms' bounded done
    simp only [alter] at done
    split at done
    case h_1 absent =>
      obtain ⟨⟨made, inner⟩, first, same⟩ := Option.bind_eq_some_iff.mp done
      cases same
      exact bounded.add (bounded_locatedMembers_iff.mpr (ih _ _ made inner bounded_nil first))
    case h_2 => cases done
    case h_3 tables found =>
      obtain ⟨⟨lastOrigin, last⟩, present, done⟩ := Option.bind_eq_some_iff.mp done
      obtain ⟨⟨newOrigin, new⟩, first, same⟩ := Option.bind_eq_some_iff.mp done
      cases same
      have each := bounded_headed_iff.mp (bounded.of_node? found)
      have before := each _ (List.mem_of_getLast? present)
      have after := ih _ _ newOrigin new before first
      refine bounded.replace (bounded_headed_iff.mpr (List.forall_mem_append.mpr ⟨?_, ?_⟩))
      · exact fun t member => each t ((List.dropLast_sublist tables).mem member)
      · simpa using after
    case h_4 found inner present =>
      split at done
      · cases done
      · obtain ⟨⟨newOrigin, new⟩, first, same⟩ := Option.bind_eq_some_iff.mp done
        cases same
        have before := bounded_locatedMembers_iff.mp (bounded.of_node? present)
        exact bounded.replace (bounded_locatedMembers_iff.mpr (ih _ _ newOrigin new before first))

theorem keeps_setKey (path : List Key) (key : Key) {v : Located} (fits : v.Bounded) :
    Keeps (setKey path key v) := by
  refine keeps_alter true ?_ path
  intro origin ms origin' ms' bounded done
  dsimp only at done
  split at done
  · cases done
  · split at done
    · cases done
    · cases done
      exact bounded.add fits

theorem keeps_openTable (span : Text.Span) (key : Key) : Keeps (openTable span key) := by
  intro origin ms origin' ms' bounded done
  unfold openTable at done
  split at done
  case h_1 =>
    cases done
    exact bounded.add (bounded_locatedMembers_iff.mpr bounded_nil)
  case h_2 inner found =>
    cases done
    have before := bounded_locatedMembers_iff.mp (bounded.of_node? found)
    have others : Bounded (ms.filter (·.1.name != key.name)) :=
      fun m member => bounded m (List.mem_filter.mp member).1
    exact others.add (bounded_locatedMembers_iff.mpr before)
  case h_3 => cases done

theorem keeps_openHeaded (span : Text.Span) (key : Key) : Keeps (openHeaded span key) := by
  intro origin ms origin' ms' bounded done
  unfold openHeaded at done
  split at done
  case h_1 =>
    cases done
    exact bounded.add (bounded_headed_iff.mpr (by simp [bounded_nil]))
  case h_2 tables found =>
    cases done
    have before := bounded_headed_iff.mp (bounded.of_node? found)
    refine bounded.replace (bounded_headed_iff.mpr (List.forall_mem_append.mpr ⟨before, ?_⟩))
    simp [bounded_nil]
  case h_3 => cases done

end Members

/-! ## Whole documents -/

theorem foldlM_keeps {α σ : Type} {P : σ → Prop} {Q : α → Prop} {step : σ → α → Option σ}
    (keeps : ∀ s a s', P s → Q a → step s a = some s' → P s') {items : List α}
    (each : ∀ a ∈ items, Q a) {s s' : σ} (start : P s) (done : items.foldlM step s = some s') :
    P s' := by
  induction items generalizing s with
  | nil =>
    cases done
    exact start
  | cons a rest ih =>
    obtain ⟨holds, later⟩ := List.forall_mem_cons.mp each
    rw [List.foldlM_cons] at done
    obtain ⟨next, first, done⟩ := Option.bind_eq_some_iff.mp done
    exact ih later (keeps s a next start holds first) done

def Assignment.Bounded (a : Assignment) : Prop := a.value.Bounded

theorem bounded_assignAll {span : Text.Span} {assignments : List Assignment} {ms : Members}
    (each : ∀ a ∈ assignments, a.Bounded) (done : assignAll span assignments = some ms) :
    ms.Bounded := by
  obtain ⟨⟨origin, made⟩, folded, rfl⟩ := Option.map_eq_some_iff.mp done
  refine foldlM_keeps (P := fun built => Members.Bounded built.2) ?_ each Members.bounded_nil folded
  rintro ⟨origin, ms⟩ a ⟨origin', ms'⟩ bounded fits done
  exact Members.keeps_setKey a.path a.key fits origin ms origin' ms' bounded done

section

variable {item : Reader Located}

theorem yields_assignment (h : Yields Located.Bounded item) :
    Yields Assignment.Bounded (assignment item) :=
  .after fun _ => .after fun _ => .after fun _ => h.bind fun _ fits => .pure fits

theorem yields_arrayOf (h : Yields Located.Bounded item) :
    Yields (fun items => ∀ v ∈ items, v.Bounded) (arrayOf item) := by
  have spaced : Yields Located.Bounded (do
      gap
      let v ← item
      gap
      return v) := .after fun _ => h.bind fun _ fits => .after fun _ => .pure fits
  refine .after fun _ => (spaced.separated _).bind fun items each => ?_
  have ending : Yields (fun items : List Located => ∀ v ∈ items, v.Bounded) (do
      gap
      Reader.char ']'
      return items) := .after fun _ => .after fun _ => .pure each
  exact .ite (fun _ => .after fun _ => ending) fun _ => ending

theorem yields_bracesOf (h : Yields Located.Bounded item) :
    Yields (fun assignments => ∀ a ∈ assignments, a.Bounded) (bracesOf item) := by
  have spaced : Yields Assignment.Bounded (do
      let a ← assignment item
      spaces
      return a) := (yields_assignment h).bind fun _ fits => .after fun _ => .pure fits
  exact .after fun _ => (spaced.separated _).bind fun _ each =>
    .after fun _ => .after fun _ => .pure each

end

theorem yields_value (depth : Nat) : Yields Located.Bounded (value depth) := by
  have single : Yields Located.Bounded locatedScalar :=
    yields_scalar.spanned.bind fun _ fits => .pure fits
  induction depth with
  | zero => exact single
  | succ depth ih =>
    have listed : Yields Located.Bounded (locatedArray (value depth)) :=
      (yields_arrayOf ih).spanned.bind fun _ each => .pure (Located.bounded_array each)
    have braced : Yields Located.Bounded (locatedBraces (value depth)) := by
      refine (yields_bracesOf ih).spanned.bind fun found each => ?_
      dsimp only
      split
      case h_1 members built =>
        exact .pure (Members.bounded_locatedMembers_iff.mpr (bounded_assignAll each built))
      case h_2 => exact .failure
    exact listed.orElse (braced.orElse single)

def Line.Bounded : Line → Prop
  | .assignment a => a.Bounded
  | _ => True

theorem yields_line : Yields Line.Bounded line := by
  have headers : Yields Line.Bounded header :=
    .orElse (.after fun _ => .pure trivial) (.after fun _ => .pure trivial)
  have assigned : Yields Line.Bounded (return .assignment (← assignment (value (depthLimit - 1)))) :=
    (yields_assignment (yields_value _)).bind fun _ fits => .pure fits
  have blank : Yields Line.Bounded (pure .blank) := .pure trivial
  exact .after fun _ => (headers.orElse (assigned.orElse blank)).bind fun _ fits =>
    .after fun _ => .after fun _ => .pure fits

theorem Draft.bounded_carryOut {d d' : Draft} {l : Line} (h : d.root.Bounded) (fits : l.Bounded)
    (done : d.carryOut l = some d') : d'.root.Bounded := by
  have altered {path : List Key} {change : Change} (keeps : Members.Keeps change) {root : Members}
      (changed : d.alter path change = some root) : root.Bounded := by
    obtain ⟨⟨origin, made⟩, first, rfl⟩ := Option.map_eq_some_iff.mp changed
    exact Members.keeps_alter false keeps path _ _ origin made h first
  cases l with
  | blank =>
    cases done
    exact h
  | table span path last =>
    obtain ⟨root, changed, same⟩ := Option.bind_eq_some_iff.mp done
    cases same
    exact altered (Members.keeps_openTable span last) changed
  | headed span path last =>
    obtain ⟨root, changed, same⟩ := Option.bind_eq_some_iff.mp done
    cases same
    exact altered (Members.keeps_openHeaded span last) changed
  | assignment a =>
    obtain ⟨root, changed, same⟩ := Option.bind_eq_some_iff.mp done
    cases same
    refine altered ?_ changed
    intro origin ms origin' ms' bounded done
    obtain ⟨⟨_, made⟩, first, same⟩ := Option.bind_eq_some_iff.mp done
    cases same
    exact Members.keeps_setKey a.path a.key fits origin ms _ ms' bounded first

/-- No integer of a document is past the greatest, wherever it stands. -/
theorem bounded_document {s : String} {members : List (Key × Located)}
    (read : document? s = some members) :
    (TomlValue.table (Located.memberValues members)).Bounded := by
  obtain ⟨found, first, done⟩ := Option.bind_eq_some_iff.mp read
  obtain ⟨d, carried, same⟩ := Option.bind_eq_some_iff.mp done
  cases same
  have each : ∀ l ∈ found, l.Bounded := (yields_line.separated lineBreak).whole? first
  have root : d.root.Bounded :=
    foldlM_keeps (P := fun d => Members.Bounded d.root) (fun _ _ _ => Draft.bounded_carryOut) each
      Members.bounded_nil carried
  exact (Members.bounded_locatedMembers_iff.mpr root : (Located.table none _).Bounded)

end Toml
end CaptureQueue
