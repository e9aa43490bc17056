import CaptureQueue.Filter.Rule
import CaptureQueue.Proofs.Address.Text

/-! The text of a rule tells which rule it is. It begins with a word that tells the form of the rule,
and a comma, a closing bracket or the end of the text parts it from whatever comes after it. -/

set_option autoImplicit false
namespace CaptureQueue

/-! ## Words in a text -/

namespace Text

/-- Whether a text does not go on with a character of the kind. -/
def Leaves (kind : Char → Bool) (rest : List Char) : Prop := ∀ c, rest.head? = some c → kind c = false

theorem leaves_cons {kind : Char → Bool} {c : Char} {rest : List Char} (other : kind c = false) :
    Leaves kind (c :: rest) := by
  intro d same
  cases same
  exact other

theorem takeWhile_append_of_leaves {kind : Char → Bool} {word rest : List Char}
    (inside : ∀ c ∈ word, kind c = true) (leaves : Leaves kind rest) :
    (word ++ rest).takeWhile kind = word := by
  rw [List.takeWhile_append_of_pos inside]
  cases rest with
  | nil => simp
  | cons c rest => simp [leaves c rfl]

theorem eq_and_eq_of_append {kind : Char → Bool} {u v s t : List Char}
    (inU : ∀ c ∈ u, kind c = true) (inV : ∀ c ∈ v, kind c = true) (leavesS : Leaves kind s)
    (leavesT : Leaves kind t) (same : u ++ s = v ++ t) : u = v ∧ s = t := by
  have words := congrArg (List.takeWhile kind) same
  rw [takeWhile_append_of_leaves inU leavesS, takeWhile_append_of_leaves inV leavesT] at words
  subst words
  exact ⟨rfl, List.append_cancel_left same⟩

theorem toDigits_injective {m n : Nat} (same : Nat.toDigits 10 m = Nat.toDigits 10 n) : m = n := by
  have values := congrArg (valueOf 10) same
  rwa [valueOf_toDigits (by decide) (by decide), valueOf_toDigits (by decide) (by decide)] at values

theorem isDigit_of_mem_decimal {n : Nat} {c : Char} (member : c ∈ Nat.toDigits 10 n) :
    isDigit 10 c = true := isDigit_of_mem_toDigits (by decide) (by decide) member

theorem eq_of_digits_append {m n : Nat} {s t : List Char} (leavesS : Leaves (isDigit 10) s)
    (leavesT : Leaves (isDigit 10) t) (same : Nat.toDigits 10 m ++ s = Nat.toDigits 10 n ++ t) :
    m = n ∧ s = t := by
  obtain ⟨digits, rest⟩ := eq_and_eq_of_append (fun _ => isDigit_of_mem_decimal)
    (fun _ => isDigit_of_mem_decimal) leavesS leavesT same
  exact ⟨toDigits_injective digits, rest⟩

end Text

open Text (Leaves leaves_cons eq_and_eq_of_append eq_of_digits_append isDigit)

/-! ## Addresses -/

namespace IpAddress

def isLetter (c : Char) : Bool := isDigit 16 c || c == '.' || c == ':'

theorem isLetter_of_isDigit {radix : Nat} {c : Char} (small : radix ≤ 16)
    (digit : isDigit radix c = true) : isLetter c = true := by
  have wider : isDigit 16 c = true := by
    simp only [isDigit, Text.digitValue?, Option.isSome_iff_exists, Option.filter_eq_some_iff,
      decide_eq_true_eq] at digit ⊢
    obtain ⟨value, found, below⟩ := digit
    exact ⟨value, found, Nat.lt_of_lt_of_le below small⟩
  simp [isLetter, wider]

theorem isLetter_of_mem_toDigits {radix n : Nat} {c : Char} (large : 1 < radix) (small : radix ≤ 16)
    (member : c ∈ Nat.toDigits radix n) : isLetter c = true :=
  isLetter_of_isDigit small (Text.isDigit_of_mem_toDigits large small member)

theorem isLetter_of_mem_quad {x : Ipv4} {c : Char} (member : c ∈ x.text.toList) : isLetter c = true := by
  have dot : (toString ".").toList = ['.'] := rfl
  have digits {n : Nat} (inside : c ∈ (toString n).toList) : isLetter c = true := by
    have digit : c ∈ Nat.toDigits 10 n := by simpa using inside
    exact isLetter_of_mem_toDigits (by decide) (by decide) digit
  simp only [Ipv4.text, String.toList_append, dot, List.mem_append, List.mem_singleton] at member
  rcases member with (((((octet | rfl) | octet) | rfl) | octet) | rfl) | octet
  all_goals first | rfl | exact digits octet

theorem isLetter_of_mem_groups {gs : List UInt16} {c : Char}
    (member : c ∈ (Ipv6.joinGroups gs).toList) : isLetter c = true := by
  have digits {g : UInt16} (inside : c ∈ groupDigits g) : isLetter c = true :=
    isLetter_of_mem_toDigits (by decide) (by decide) inside
  rw [joinGroups_toList] at member
  cases gs with
  | nil => cases member
  | cons g gs =>
    rcases List.mem_append.mp member with first | later
    · exact digits first
    · obtain ⟨h, _, inside⟩ := List.mem_flatMap.mp later
      rcases List.mem_cons.mp inside with rfl | digit
      · rfl
      · exact digits digit

theorem isLetter_of_mem_text {a : IpAddress} {c : Char} (member : c ∈ a.text.toList) :
    isLetter c = true := by
  cases a with
  | v4 x => exact isLetter_of_mem_quad member
  | v6 x =>
    have fixed {s : String} (letters : s.toList.all isLetter = true) (inside : c ∈ s.toList) :
        isLetter c = true := List.all_eq_true.mp letters c inside
    simp only [text, Ipv6.text] at member
    split at member
    · rcases List.mem_append.mp (String.toList_append ▸ member) with ahead | quad
      · exact fixed rfl ahead
      · exact isLetter_of_mem_quad quad
    · split at member
      · simp only [String.toList_append, List.mem_append] at member
        rcases member with (head | colons) | tail
        · exact isLetter_of_mem_groups head
        · exact fixed rfl colons
        · exact isLetter_of_mem_groups tail
      · exact isLetter_of_mem_groups member

theorem text_injective {a b : IpAddress} (same : a.text = b.text) : a = b := by
  have read := ofText?_text a
  rw [same, ofText?_text b] at read
  exact (Option.some.inj read).symm

end IpAddress

/-! ## Rules -/

theorem Protocol.name_injective {p q : Protocol} (same : p.name = q.name) : p = q := by
  cases p <;> cases q <;> first | rfl | exact absurd same (by decide)

/-- What may come after a rule in a text: a comma, a closing bracket or nothing. -/
def Follows (rest : List Char) : Prop := ∀ c, rest.head? = some c → c = ',' ∨ c = ')'

theorem Follows.leaves {kind : Char → Bool} {rest : List Char} (follows : Follows rest)
    (comma : kind ',' = false) (bracket : kind ')' = false) : Leaves kind rest := by
  intro c head
  rcases follows c head with rfl | rfl
  · exact comma
  · exact bracket

theorem follows_bracket (rest : List Char) : Follows (')' :: rest) := by
  intro c head
  exact .inr (Option.some.inj head).symm

namespace LengthRange

/-- What parts the word for a length from the bounds, or stands for them. -/
def sign (r : LengthRange) : String :=
  match r.min, r.max with
  | some _, some _ => " "
  | some _, none => " >= "
  | none, some _ => " <= "
  | none, none => " any"

def bounds (r : LengthRange) : List Char :=
  match r.min, r.max with
  | some lo, some hi => Nat.toDigits 10 lo ++ '.' :: '.' :: '=' :: Nat.toDigits 10 hi
  | some lo, none => Nat.toDigits 10 lo
  | none, some hi => Nat.toDigits 10 hi
  | none, none => []

theorem toList_text (r : LengthRange) : r.text.toList = "len".toList ++ (r.sign.toList ++ r.bounds) := by
  have plain (s : String) : toString s = s := rfl
  obtain ⟨min | min, max | max⟩ := r <;> simp [text, sign, bounds, plain]

/-- The characters of signs: those that no number begins with, and that part no rules. -/
def isSign (c : Char) : Bool := !isDigit 10 c && c != ',' && c != ')'

theorem sign_eq_cons (r : LengthRange) : ∃ more, r.sign.toList = ' ' :: more := by
  obtain ⟨min | min, max | max⟩ := r <;> simp [sign]

theorem isSign_of_mem_sign {r : LengthRange} {c : Char} (member : c ∈ r.sign.toList) :
    isSign c = true := by
  have listed : r.sign ∈ [" ", " >= ", " <= ", " any"] := by
    obtain ⟨min | min, max | max⟩ := r <;> simp [sign]
  have each : ∀ sign ∈ [" ", " >= ", " <= ", " any"], sign.toList.all isSign = true := by decide
  exact List.all_eq_true.mp (each _ listed) c member

theorem leaves_toDigits (n : Nat) (rest : List Char) : Leaves isSign (Nat.toDigits 10 n ++ rest) := by
  cases digits : Nat.toDigits 10 n with
  | nil => exact absurd digits Nat.toDigits_ne_nil
  | cons c more =>
    have digit : isDigit 10 c = true := Text.isDigit_of_mem_decimal (digits ▸ List.mem_cons_self)
    exact leaves_cons (by simp [isSign, digit])

theorem leaves_bounds (r : LengthRange) {rest : List Char} (follows : Follows rest) :
    Leaves isSign (r.bounds ++ rest) := by
  obtain ⟨min | min, max | max⟩ := r
  case none.none => exact follows.leaves rfl rfl
  case some.some =>
    rw [bounds, List.append_assoc]
    exact leaves_toDigits min _
  all_goals exact leaves_toDigits _ rest

theorem eq_of_bounds_append {r r' : LengthRange} {s s' : List Char} (signs : r.sign = r'.sign)
    (follows : Follows s) (follows' : Follows s') (same : r.bounds ++ s = r'.bounds ++ s') :
    r = r' ∧ s = s' := by
  have ends : Leaves (isDigit 10) s := follows.leaves rfl rfl
  have ends' : Leaves (isDigit 10) s' := follows'.leaves rfl rfl
  obtain ⟨min | lo, max | hi⟩ := r <;> obtain ⟨min | lo', max | hi'⟩ := r'
  case none.none.none.none => exact ⟨rfl, same⟩
  case none.some.none.some | some.none.some.none =>
    simp only [bounds] at same
    obtain ⟨rfl, rest⟩ := eq_of_digits_append ends ends' same
    exact ⟨rfl, rest⟩
  case some.some.some.some =>
    simp only [bounds, List.append_assoc, List.cons_append] at same
    obtain ⟨rfl, tails⟩ := eq_of_digits_append (leaves_cons rfl) (leaves_cons rfl) same
    simp only [List.cons.injEq, true_and] at tails
    obtain ⟨rfl, rest⟩ := eq_of_digits_append ends ends' tails
    exact ⟨rfl, rest⟩
  all_goals exact absurd signs (by simp [sign])

theorem eq_of_text_append {r r' : LengthRange} {s s' : List Char} (follows : Follows s)
    (follows' : Follows s') (same : r.text.toList ++ s = r'.text.toList ++ s') : r = r' ∧ s = s' := by
  simp only [toList_text, List.append_assoc] at same
  obtain ⟨signs, rest⟩ := eq_and_eq_of_append (fun _ => isSign_of_mem_sign)
    (fun _ => isSign_of_mem_sign) (r.leaves_bounds follows) (r'.leaves_bounds follows')
    (List.append_cancel_left same)
  exact eq_of_bounds_append (String.toList_inj.mp signs) follows follows' rest

end LengthRange

namespace FilterRule

def opening : FilterRule → String
  | .protocol p => p.name
  | .port _ => "port"
  | .host _ => "host"
  | .length _ => "len"
  | .all _ => "all"
  | .any _ => "any"
  | .not _ => "not"

def openings : List String :=
  Protocol.all.map Protocol.name ++ ["port", "host", "len", "all", "any", "not"]

def body : FilterRule → List Char
  | .protocol _ => []
  | .port n => ' ' :: Nat.toDigits 10 n.toNat
  | .host a => ' ' :: a.text.toList
  | .length r => r.sign.toList ++ r.bounds
  | .all rules | .any rules => '(' :: (", ".intercalate (texts rules)).toList ++ [')']
  | .not rule => ' ' :: rule.text.toList

theorem toList_text (rule : FilterRule) : rule.text.toList = rule.opening.toList ++ rule.body := by
  have plain (s : String) : toString s = s := rfl
  cases rule with
  | length r =>
    rw [text, opening, body]
    exact r.toList_text
  | _ => simp [text, opening, body, plain]

/-- Rules of one form; of each protocol there is only one. -/
inductive Alike : FilterRule → FilterRule → Prop
  | protocol (p : Protocol) : Alike (.protocol p) (.protocol p)
  | port (m n : UInt16) : Alike (.port m) (.port n)
  | host (a b : IpAddress) : Alike (.host a) (.host b)
  | length (r s : LengthRange) : Alike (.length r) (.length s)
  | all (rs ss : List FilterRule) : Alike (.all rs) (.all ss)
  | any (rs ss : List FilterRule) : Alike (.any rs) (.any ss)
  | not (r s : FilterRule) : Alike (.not r) (.not s)

theorem alike_of_opening {r s : FilterRule} (same : r.opening = s.opening) : Alike r s := by
  have other (p : Protocol) : ∀ word ∈ ["port", "host", "len", "all", "any", "not"], p.name ≠ word := by
    cases p <;> decide
  cases r with
  | protocol p =>
    cases s with
    | protocol q =>
      rw [Protocol.name_injective same]
      exact .protocol q
    | _ => exact absurd same (other p _ (by simp [opening]))
  | _ =>
    cases s with
    | protocol q => exact absurd same.symm (other q _ (by simp [opening]))
    | _ => first
      | constructor
      | exact absurd same (by simp [opening])

def later (rules : List FilterRule) : List Char :=
  rules.flatMap fun rule => ',' :: ' ' :: rule.text.toList

def listed : List FilterRule → List Char
  | [] => []
  | rule :: rules => rule.text.toList ++ later rules

theorem toList_intercalate (rules : List FilterRule) :
    (", ".intercalate (texts rules)).toList = listed rules := by
  have parting : (", " : String).toList = [',', ' '] := rfl
  rw [String.toList_intercalate, parting]
  cases rules with
  | nil => rfl
  | cons rule rules =>
    induction rules generalizing rule with
    | nil => simp [texts, listed, later]
    | cons next rules ih =>
      have rest := ih next
      simp only [texts, List.map_cons] at rest ⊢
      rw [List.intercalate_cons_cons, rest]
      simp [listed, later]

/-! ## The text of a rule, whatever comes after it -/

theorem opening_mem_openings (rule : FilterRule) : rule.opening ∈ openings := by
  cases rule with
  | protocol p => cases p <;> simp [opening, openings, Protocol.all]
  | _ => simp [opening, openings]

theorem isAlphanum_of_mem_opening {rule : FilterRule} {c : Char} (member : c ∈ rule.opening.toList) :
    c.isAlphanum = true := by
  have each : ∀ word ∈ openings, word.toList.all Char.isAlphanum = true := by decide
  exact List.all_eq_true.mp (each _ rule.opening_mem_openings) c member

theorem leaves_body (rule : FilterRule) {rest : List Char} (follows : Follows rest) :
    Leaves Char.isAlphanum (rule.body ++ rest) := by
  cases rule with
  | protocol p => exact follows.leaves rfl rfl
  | length r =>
    obtain ⟨more, sign⟩ := r.sign_eq_cons
    rw [body, sign]
    exact leaves_cons rfl
  | _ => exact leaves_cons rfl

theorem eq_of_opening {r s : FilterRule} {t u : List Char} (followsT : Follows t)
    (followsU : Follows u) (same : r.text.toList ++ t = s.text.toList ++ u) :
    Alike r s ∧ r.body ++ t = s.body ++ u := by
  simp only [toList_text, List.append_assoc] at same
  obtain ⟨words, rest⟩ := eq_and_eq_of_append (fun _ => isAlphanum_of_mem_opening)
    (fun _ => isAlphanum_of_mem_opening) (r.leaves_body followsT) (s.leaves_body followsU) same
  exact ⟨alike_of_opening (String.toList_inj.mp words), rest⟩

theorem text_append_ne_bracket (rule : FilterRule) (rest t : List Char) :
    rule.text.toList ++ rest ≠ ')' :: t := by
  intro same
  rw [toList_text, List.append_assoc] at same
  cases word : rule.opening.toList with
  | nil =>
    have each : ∀ word ∈ openings, word.toList ≠ [] := by decide
    exact each _ rule.opening_mem_openings word
  | cons c more =>
    rw [word, List.cons_append, List.cons.injEq] at same
    have letter := isAlphanum_of_mem_opening (word ▸ List.mem_cons_self)
    rw [same.1] at letter
    exact absurd letter (by decide)

theorem later_of_listed {rs ss : List FilterRule} {t u : List Char}
    (same : listed rs ++ ')' :: t = listed ss ++ ')' :: u) :
    later rs ++ ')' :: t = later ss ++ ')' :: u := by
  cases rs with
  | nil =>
    cases ss with
    | nil => exact same
    | cons s ss =>
      simp only [listed, List.append_assoc, List.nil_append] at same
      exact absurd same.symm (text_append_ne_bracket s _ t)
  | cons r rs =>
    cases ss with
    | nil =>
      simp only [listed, List.append_assoc, List.nil_append] at same
      exact absurd same (text_append_ne_bracket r _ u)
    | cons s ss => exact congrArg (',' :: ' ' :: ·) same

theorem later_of_enclosed {rs ss : List FilterRule} {t u : List Char}
    (same : '(' :: (", ".intercalate (texts rs)).toList ++ [')'] ++ t =
      '(' :: (", ".intercalate (texts ss)).toList ++ [')'] ++ u) :
    later rs ++ ')' :: t = later ss ++ ')' :: u := by
  simp only [toList_intercalate, List.cons_append, List.append_assoc, List.nil_append,
    List.cons.injEq, true_and] at same
  exact later_of_listed same

theorem follows_later (rules : List FilterRule) (t : List Char) : Follows (later rules ++ ')' :: t) := by
  cases rules with
  | nil => exact follows_bracket t
  | cons rule rules =>
    intro c head
    exact .inl (Option.some.inj head).symm

-- What comes after is kept general, since a rule inside another is followed by the rest of that one.
mutual

theorem eq_of_text_append : (r s : FilterRule) → {t u : List Char} → Follows t → Follows u →
    r.text.toList ++ t = s.text.toList ++ u → r = s ∧ t = u
  | .protocol p, s, t, u, followsT, followsU, same => by
    obtain ⟨⟨⟩, rest⟩ := eq_of_opening followsT followsU same
    exact ⟨rfl, rest⟩
  | .port m, s, t, u, followsT, followsU, same => by
    obtain ⟨⟨⟩, rest⟩ := eq_of_opening followsT followsU same
    obtain ⟨numbers, rest⟩ := eq_of_digits_append (followsT.leaves rfl rfl)
      (followsU.leaves rfl rfl) (List.cons.inj rest).2
    exact ⟨congrArg port (UInt16.toNat_inj.mp numbers), rest⟩
  | .host a, s, t, u, followsT, followsU, same => by
    obtain ⟨⟨⟩, rest⟩ := eq_of_opening followsT followsU same
    obtain ⟨texts, rest⟩ := eq_and_eq_of_append (fun _ => IpAddress.isLetter_of_mem_text)
      (fun _ => IpAddress.isLetter_of_mem_text) (followsT.leaves rfl rfl) (followsU.leaves rfl rfl)
      (List.cons.inj rest).2
    exact ⟨congrArg host (IpAddress.text_injective (String.toList_inj.mp texts)), rest⟩
  | .length a, s, t, u, followsT, followsU, same => by
    obtain ⟨⟨⟩, _⟩ := eq_of_opening followsT followsU same
    rw [text, text] at same
    obtain ⟨ranges, rest⟩ := LengthRange.eq_of_text_append followsT followsU same
    exact ⟨congrArg length ranges, rest⟩
  | .all rs, s, t, u, followsT, followsU, same => by
    obtain ⟨⟨⟩, rest⟩ := eq_of_opening followsT followsU same
    obtain ⟨rules, rest⟩ := eq_of_later_append rs _ (later_of_enclosed rest)
    exact ⟨congrArg all rules, rest⟩
  | .any rs, s, t, u, followsT, followsU, same => by
    obtain ⟨⟨⟩, rest⟩ := eq_of_opening followsT followsU same
    obtain ⟨rules, rest⟩ := eq_of_later_append rs _ (later_of_enclosed rest)
    exact ⟨congrArg any rules, rest⟩
  | .not r, s, t, u, followsT, followsU, same => by
    obtain ⟨⟨⟩, rest⟩ := eq_of_opening followsT followsU same
    obtain ⟨rules, rest⟩ := eq_of_text_append r _ followsT followsU (List.cons.inj rest).2
    exact ⟨congrArg not rules, rest⟩

theorem eq_of_later_append : (rs ss : List FilterRule) → {t u : List Char} →
    later rs ++ ')' :: t = later ss ++ ')' :: u → rs = ss ∧ t = u
  | [], [], t, u, same => ⟨rfl, (List.cons.inj same).2⟩
  | [], s :: ss, t, u, same => absurd (List.cons.inj same).1 (by decide)
  | r :: rs, [], t, u, same => absurd (List.cons.inj same).1 (by decide)
  | r :: rs, s :: ss, t, u, same => by
    simp only [later, List.flatMap_cons, List.cons_append, List.append_assoc, List.cons.injEq,
      true_and] at same
    obtain ⟨first, rest⟩ := eq_of_text_append r s (follows_later rs t) (follows_later ss u) same
    obtain ⟨more, rest⟩ := eq_of_later_append rs ss rest
    exact ⟨by rw [first, more], rest⟩

end

/-- Rules of the same text are the same rule, however deep and whatever they are made of. -/
theorem text_identifies (r s : FilterRule) : r.text = s.text ↔ r = s := by
  refine ⟨fun same => ?_, congrArg text⟩
  have ends : Follows [] := fun c head => nomatch head
  exact (eq_of_text_append r s ends ends (congrArg (·.toList ++ []) same)).1

example : (all [.port 22, .not (any [])]).text = "all(port 22, not any())" := rfl

end FilterRule
end CaptureQueue
