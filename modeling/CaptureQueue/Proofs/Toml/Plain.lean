import CaptureQueue.Proofs.Outcome
import CaptureQueue.Toml.Decode
import CaptureQueue.Toml.Reserved

/-! Values regardless of how their arrays were written. A list of tables may stand on one line or
under headers of its own; what a decoder makes of the first it makes of the second. -/

set_option autoImplicit false
namespace CaptureQueue

namespace TomlValue

mutual

def plain : TomlValue → TomlValue
  | .array items | .headed items => .array (plainItems items)
  | .table members => .table (plainMembers members)
  | v => v

def plainItems : List TomlValue → List TomlValue
  | [] => []
  | v :: vs => plain v :: plainItems vs

def plainMembers : List (String × TomlValue) → List (String × TomlValue)
  | [] => []
  | (key, v) :: rest => (key, plain v) :: plainMembers rest

end

theorem dateEntry?_plain (members : List (String × TomlValue)) :
    dateEntry? (plainMembers members) = Option.map plain ( dateEntry? members) := by
  match members with
  | [] => rfl
  | (key, v) :: rest =>
    simp only [plainMembers, dateEntry?]
    split <;> rfl

theorem dateOf?_plain (v : TomlValue) : dateOf? v.plain = dateOf? v := by
  cases v <;> rfl

theorem plain_of_dateOf? {v date : TomlValue} (told : dateOf? v = some date) : date.plain = date := by
  cases v with
  | string s =>
    simp only [dateOf?, Option.map_eq_some_iff] at told
    obtain ⟨_, _, rfl⟩ := told
    rfl
  | _ => cases told

mutual

theorem settled?_plain : (v : TomlValue) → v.plain.settled? = v.settled?.map plain
  | .string _ | .integer _ | .float _ | .boolean _ | .datetime _ => rfl
  | .array items => by
    simp only [plain, settled?, settledItems?_plain items, Option.map_map]
    rfl
  | .headed items => by
    simp only [plain, settled?, settledItems?_plain items, Option.map_map]
    rfl
  | .table members => by
    simp only [plain, settled?, dateEntry?_plain]
    cases dateEntry? members with
    | none =>
      simp only [Option.map_none, settledMembers?_plain members, Option.map_map]
      rfl
    | some v =>
      simp only [Option.map_some, dateOf?_plain]
      cases told : dateOf? v with
      | none => rfl
      | some date => rw [Option.map_some, plain_of_dateOf? told]

theorem settledItems?_plain : (vs : List TomlValue) →
    settledItems? (plainItems vs) = (settledItems? vs).map plainItems
  | [] => rfl
  | v :: vs => by
    simp only [plainItems, settledItems?, settled?_plain v, settledItems?_plain vs]
    cases v.settled? with
    | none => rfl
    | some _ => cases settledItems? vs <;> rfl

theorem settledMembers?_plain : (members : List (String × TomlValue)) →
    settledMembers? (plainMembers members) = (settledMembers? members).map plainMembers
  | [] => rfl
  | (key, v) :: rest => by
    simp only [plainMembers, settledMembers?, settled?_plain v, settledMembers?_plain rest]
    cases v.settled? with
    | none => rfl
    | some _ => cases settledMembers? rest <;> rfl

end

theorem filter_plainMembers (known : String → Bool) (members : List (String × TomlValue)) :
    (plainMembers members).filter (known ·.1) = plainMembers (members.filter (known ·.1)) := by
  induction members with
  | nil => rfl
  | cons entry rest ih =>
    obtain ⟨key, v⟩ := entry
    cases kept : known key <;> simp [plainMembers, kept, ih]

theorem zip_plainItems (keys : List String) (vs : List TomlValue) :
    keys.zip (plainItems vs) = plainMembers (keys.zip vs) := by
  induction keys generalizing vs with
  | nil => rfl
  | cons key keys ih =>
    cases vs with
    | nil => rfl
    | cons v vs => simp [plainItems, plainMembers, ih]

theorem plainMembers_append (members others : List (String × TomlValue)) :
    plainMembers (members ++ others) = plainMembers members ++ plainMembers others := by
  induction members with
  | nil => rfl
  | cons entry rest ih => rw [List.cons_append, plainMembers, plainMembers, ih, List.cons_append]

mutual

/-- Whether two values without fractions are the same but for the layout of their arrays. -/
def agree : TomlValue → TomlValue → Bool
  | .string s, .string t | .datetime s, .datetime t => s == t
  | .integer n, .integer m => n == m
  | .boolean b, .boolean c => b == c
  | .array vs, .array ws | .array vs, .headed ws | .headed vs, .array ws | .headed vs, .headed ws =>
    agreeItems vs ws
  | .table members, .table others => agreeMembers members others
  | _, _ => false

def agreeItems : List TomlValue → List TomlValue → Bool
  | [], [] => true
  | v :: vs, w :: ws => agree v w && agreeItems vs ws
  | _, _ => false

def agreeMembers : List (String × TomlValue) → List (String × TomlValue) → Bool
  | [], [] => true
  | (key, v) :: rest, (other, w) :: others => key == other && agree v w && agreeMembers rest others
  | _, _ => false

end

mutual

theorem plain_of_agree : (v w : TomlValue) → agree v w = true → v.plain = w.plain
  | .string s, w, same | .datetime s, w, same | .integer n, w, same | .boolean b, w, same => by
    cases w <;> simp_all [agree]
  | .float _, w, same => by simp [agree] at same
  | .array vs, w, same | .headed vs, w, same => by
    cases w with
    | array ws | headed ws =>
      rw [agree] at same
      rw [plain, plain, plainItems_of_agree vs ws same]
    | _ => simp [agree] at same
  | .table members, w, same => by
    cases w with
    | table others =>
      rw [agree] at same
      rw [plain, plain, plainMembers_of_agree members others same]
    | _ => simp [agree] at same

theorem plainItems_of_agree : (vs ws : List TomlValue) → agreeItems vs ws = true →
    plainItems vs = plainItems ws
  | [], ws, same => by cases ws <;> simp_all [agreeItems]
  | v :: vs, ws, same => by
    cases ws with
    | nil => simp [agreeItems] at same
    | cons w ws =>
      rw [agreeItems, Bool.and_eq_true] at same
      rw [plainItems, plainItems, plain_of_agree v w same.1, plainItems_of_agree vs ws same.2]

theorem plainMembers_of_agree : (members others : List (String × TomlValue)) →
    agreeMembers members others = true → plainMembers members = plainMembers others
  | [], others, same => by cases others <;> simp_all [agreeMembers]
  | (key, v) :: rest, others, same => by
    cases others with
    | nil => simp [agreeMembers] at same
    | cons entry others =>
      obtain ⟨other, w⟩ := entry
      simp only [agreeMembers, Bool.and_eq_true, beq_iff_eq] at same
      rw [plainMembers, plainMembers, same.1.1, plain_of_agree v w same.1.2,
        plainMembers_of_agree rest others same.2]

end

end TomlValue

namespace Toml.Decode

variable {α β : Type}

theorem within_eq_ok {step : TomlStep} {found : Except DecodeFailure α} {a : α} :
    within step found = .ok a ↔ found = .ok a := by
  cases found with
  | error e => constructor <;> intro failed <;> cases failed
  | ok b => exact .rfl

/-- Whether a decoder that takes a value takes it however its arrays were written. -/
def Steady (decode : Decoder α) : Prop := ∀ v a, decode v.plain = .ok a → decode v = .ok a

namespace Steady

theorem bind {decode : Decoder α} {next : α → Except DecodeFailure β} (h : Steady decode) :
    Steady fun v => decode v >>= next := by
  intro v b found
  obtain ⟨a, first, second⟩ := bind_eq_ok.mp found
  exact bind_eq_ok.mpr ⟨a, h v a first, second⟩

theorem map {decode : Decoder α} {f : α → β} (h : Steady decode) :
    Steady fun v => (decode v).map f := by
  intro v b found
  obtain ⟨a, first, same⟩ := map_eq_ok.mp found
  exact map_eq_ok.mpr ⟨a, h v a first, same⟩

theorem const (found : Except DecodeFailure α) : Steady fun _ => found := fun _ _ same => same

theorem ite {p : Prop} [Decidable p] {decode other : Decoder α} (h : Steady decode)
    (h' : Steady other) : Steady fun v => if p then decode v else other v := by
  split
  · exact h
  · exact h'

theorem string (expected : String) : Steady (Decode.string expected) := by
  intro v a found
  cases v <;> exact found

theorem boolean : Steady Decode.boolean := by
  intro v a found
  cases v <;> exact found

theorem natural (limit : Nat) (expected : String) : Steady (Decode.natural limit expected) := by
  intro v a found
  cases v <;> exact found

theorem itemsFrom {decode : Decoder α} (h : Steady decode) (index : Nat) (vs : List TomlValue)
    (as : List α) (found : Decode.itemsFrom decode index (TomlValue.plainItems vs) = .ok as) :
    Decode.itemsFrom decode index vs = .ok as := by
  induction vs generalizing index as with
  | nil => exact found
  | cons v vs ih =>
    simp only [TomlValue.plainItems, Decode.itemsFrom, bind_eq_ok, within_eq_ok] at found ⊢
    obtain ⟨a, first, rest, later, same⟩ := found
    exact ⟨a, h v a first, rest, ih (index + 1) rest later, same⟩

theorem sequence {decode : Decoder α} (h : Steady decode) : Steady (Decode.sequence decode) := by
  intro v as found
  cases v with
  | array vs | headed vs => exact h.itemsFrom 0 vs as found
  | _ => cases found

theorem foldlM_members (step step' : String → TomlStep)
    {setField : String → TomlValue → α → Except DecodeFailure α}
    (h : ∀ key a, Steady fun v => setField key v a) (members : List (String × TomlValue)) {a b : α}
    (found : (TomlValue.plainMembers members).foldlM
      (fun a x => within (step x.1) (setField x.1 x.2 a)) a = .ok b) :
    members.foldlM (fun a x => within (step' x.1) (setField x.1 x.2 a)) a = .ok b := by
  induction members generalizing a with
  | nil => exact found
  | cons entry rest ih =>
    obtain ⟨key, v⟩ := entry
    simp only [TomlValue.plainMembers, List.foldlM_cons, bind_eq_ok, within_eq_ok] at found ⊢
    obtain ⟨next, first, later⟩ := found
    exact ⟨next, h key a v next first, ih later⟩

theorem record {name : String} {known : List String}
    {setField : String → TomlValue → α → Except DecodeFailure α} {default : α}
    (h : ∀ key a, Steady fun v => setField key v a) :
    Steady (Decode.record name known setField default) := by
  intro v a found
  cases v with
  | table members =>
    simp only [Decode.record, TomlValue.plain, fields, bind_eq_ok, Except.ok.injEq] at found ⊢
    obtain ⟨_, rfl, found⟩ := found
    rw [TomlValue.filter_plainMembers known.contains] at found
    exact ⟨_, rfl, foldlM_members _ _ h _ found⟩
  | array vs | headed vs =>
    simp only [Decode.record, TomlValue.plain, fields, bind_eq_ok, Except.ok.injEq, isInOrder,
      if_true] at found ⊢
    obtain ⟨_, rfl, found⟩ := found
    rw [TomlValue.zip_plainItems] at found
    let step (key : String) : TomlStep := .item (known.idxOf key)
    exact ⟨_, rfl, foldlM_members step step h _ found⟩
  | _ => exact found

theorem noContent : Steady Decode.noContent := by
  intro v a found
  match v with
  | .array [] | .headed [] | .table [] => rfl
  | .array (_ :: _) | .headed (_ :: _) | .table (_ :: _) => cases found
  | .string _ | .integer _ | .float _ | .boolean _ | .datetime _ => exact found

theorem nameOnly (known : List String) : Steady (Decode.nameOnly known) := by
  intro v a found
  match v with
  | .table [(key, content)] =>
    simp only [Decode.nameOnly, TomlValue.plain, TomlValue.plainMembers, choice] at found ⊢
    split at found
    case isTrue present =>
      rw [if_pos present]
      obtain ⟨_, chosen, found⟩ := bind_eq_ok.mp found
      cases chosen
      obtain ⟨done, empty, same⟩ := bind_eq_ok.mp found
      exact bind_eq_ok.mpr ⟨_, rfl, bind_eq_ok.mpr
        ⟨done, within_eq_ok.mpr (noContent content done (within_eq_ok.mp empty)), same⟩⟩
    case isFalse => cases found
  | .table [] => cases found
  | .table (_ :: _ :: _) => cases found
  | .array _ | .headed _ => cases found
  | .string _ | .integer _ | .float _ | .boolean _ | .datetime _ => exact found

end Steady
end Toml.Decode
end CaptureQueue
