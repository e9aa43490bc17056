import CaptureQueue.Address.Text

/-! The text of an address reads back to it. A text without dots is no dotted address, and groups
are read one by one up to the double colon that stands for the longest run of zeros. -/

set_option autoImplicit false
namespace CaptureQueue

/-! ## Numbers -/

namespace Text

theorem digitValue?_digitChar {radix d : Nat} (small : radix ≤ 16) (below : d < radix) :
    digitValue? radix d.digitChar = some d := by
  have value : ∀ d < 16, digitValue? 16 d.digitChar = some d := by decide
  have found := value d (by omega)
  simp only [digitValue?, Option.filter_eq_some_iff] at found ⊢
  exact ⟨found.1, by simpa using below⟩

theorem isDigit_of_mem_toDigits {radix n : Nat} {c : Char} (large : 1 < radix) (small : radix ≤ 16)
    (member : c ∈ Nat.toDigits radix n) : isDigit radix c = true := by
  induction n using Nat.strongRecOn with
  | ind n ih =>
    rw [Nat.toDigits_eq_if large] at member
    split at member
    case isTrue below =>
      rw [List.mem_singleton.mp member, isDigit, digitValue?_digitChar small below]
      rfl
    case isFalse reaches =>
      rcases List.mem_append.mp member with ahead | last
      · exact ih _ (Nat.div_lt_self (by omega) large) ahead
      · rw [List.mem_singleton.mp last, isDigit,
          digitValue?_digitChar small (Nat.mod_lt _ (by omega))]
        rfl

theorem valueOf_concat (radix : Nat) (digits : List Char) (c : Char) :
    valueOf radix (digits ++ [c]) =
      valueOf radix digits * radix + (digitValue? radix c).getD 0 := by
  simp [valueOf]

theorem valueOf_toDigits {radix : Nat} (large : 1 < radix) (small : radix ≤ 16) (n : Nat) :
    valueOf radix (Nat.toDigits radix n) = n := by
  induction n using Nat.strongRecOn with
  | ind n ih =>
    rw [Nat.toDigits_eq_if large]
    split
    case isTrue below => simp [valueOf, digitValue?_digitChar small below]
    case isFalse reaches =>
      rw [valueOf_concat, ih _ (Nat.div_lt_self (by omega) large),
        digitValue?_digitChar small (Nat.mod_lt _ (by omega))]
      exact Nat.div_add_mod' n radix

theorem head?_toDigits {radix n : Nat} (large : 1 < radix) (positive : 0 < n) :
    (Nat.toDigits radix n).head? ≠ some '0' := by
  induction n using Nat.strongRecOn with
  | ind n ih =>
    rw [Nat.toDigits_eq_if large]
    split
    case isTrue below =>
      have other : n ≠ 0 := by omega
      simpa using other
    case isFalse reaches =>
      rw [List.head?_append]
      have ahead := ih _ (Nat.div_lt_self positive large) (Nat.div_pos (by omega) (by omega))
      cases digits : Nat.toDigits radix (n / radix) with
      | nil => exact absurd digits Nat.toDigits_ne_nil
      | cons c rest => simpa [digits] using ahead

end Text

theorem Text.Reader.pure_apply {α : Type} (a : α) (s : List Char) :
    (pure a : Reader α) s = some (a, s) := rfl

namespace IpAddress

open Text (Reader isDigit)

/-- Whether a text does not go on with a digit. -/
def Parts (radix : Nat) (rest : List Char) : Prop := ∀ c, rest.head? = some c → isDigit radix c = false

theorem takeWhile_toDigits {radix : Nat} (large : 1 < radix) (small : radix ≤ 16) (n : Nat)
    {rest : List Char} (parts : Parts radix rest) :
    (Nat.toDigits radix n ++ rest).takeWhile (isDigit radix) = Nat.toDigits radix n := by
  rw [List.takeWhile_append_of_pos fun c => Text.isDigit_of_mem_toDigits large small]
  cases rest with
  | nil => simp
  | cons c rest => simp [parts c rfl]

theorem readNumber_toDigits {radix n : Nat} {rest : List Char} (most : Nat) (leadingZeros : Bool)
    (large : 1 < radix) (small : radix ≤ 16) (parts : Parts radix rest)
    (short : (Nat.toDigits radix n).length ≤ most)
    (plain : leadingZeros = true ∨ (Nat.toDigits radix n).head? ≠ some '0' ∨
      (Nat.toDigits radix n).length = 1) :
    readNumber radix most leadingZeros (Nat.toDigits radix n ++ rest) = some (n, rest) := by
  have some : (Nat.toDigits radix n).length ≠ 0 := by simp
  have head : (Nat.toDigits radix n ++ rest).head? = (Nat.toDigits radix n).head? :=
    by simp [List.head?_append, List.head?_eq_some_head Nat.toDigits_ne_nil]
  simp only [readNumber, takeWhile_toDigits large small n parts, head, some, false_or,
    Nat.not_lt.mpr short, if_false, List.drop_left, Text.valueOf_toDigits large small]
  rcases plain with zeros | other | one
  · simp [zeros]
  · simp [other]
  · simp [one]

theorem readNumber_of_parts {radix most : Nat} {leadingZeros : Bool} {s : List Char}
    (parts : Parts radix s) : readNumber radix most leadingZeros s = none := by
  cases s with
  | nil => simp [readNumber]
  | cons c s => simp [readNumber, parts c rfl]

/-! ## Dotted addresses -/

theorem readOctet_toDigits (x : UInt8) {rest : List Char} (parts : Parts 10 rest) :
    readOctet (Nat.toDigits 10 x.toNat ++ rest) = some (x, rest) := by
  have below : x.toNat < 256 := x.toNat_lt
  have plain : (Nat.toDigits 10 x.toNat).head? ≠ some '0' ∨ (Nat.toDigits 10 x.toNat).length = 1 := by
    rcases Nat.eq_zero_or_pos x.toNat with zero | positive
    · exact .inr (by rw [zero]; rfl)
    · exact .inl (Text.head?_toDigits (by decide) positive)
  have number := readNumber_toDigits 3 false (by decide) (by decide) parts
    ((Nat.length_toDigits_le_iff (by decide) (by decide)).mpr (by omega)) (.inr plain)
  simp [readOctet, bind, StateT.bind, number, below, Reader.pure_apply]

theorem parts_of_head {radix : Nat} {c : Char} {rest : List Char} (other : isDigit radix c = false) :
    Parts radix (c :: rest) := by
  intro d same
  cases same
  exact other

theorem parts_nil (radix : Nat) : Parts radix [] := by
  intro c same
  cases same

theorem after_cons {α : Type} (separator : Char) (reader : Reader α) (s : List Char) :
    after separator reader (separator :: s) = reader s := by
  simp [after, Reader.char, bind, StateT.bind]

theorem readV4_text (x : Ipv4) {rest : List Char} (parts : Parts 10 rest) :
    readV4 (x.text.toList ++ rest) = some (x, rest) := by
  have dot : ∀ s, Parts 10 ('.' :: s) := fun s => parts_of_head rfl
  have text : x.text.toList ++ rest = Nat.toDigits 10 x.a.toNat ++ '.' :: (Nat.toDigits 10 x.b.toNat ++
      '.' :: (Nat.toDigits 10 x.c.toNat ++ '.' :: (Nat.toDigits 10 x.d.toNat ++ rest))) := by
    have one : (toString ".").toList = ['.'] := rfl
    simp [Ipv4.text, one]
  rw [text]
  simp [readV4, bind, StateT.bind, readOctet_toDigits, dot, parts, after_cons, Reader.pure_apply]

/-- What a reader of a number leaves is the end of the text. -/
theorem readNumber_suffix {radix most n : Nat} {leadingZeros : Bool} {s rest : List Char}
    (read : readNumber radix most leadingZeros s = some (n, rest)) : rest <:+ s := by
  simp only [readNumber] at read
  split at read
  · cases read
  · split at read <;> cases read
    exact List.drop_suffix _ s

theorem readOctet_suffix {x : UInt8} {s rest : List Char} (read : readOctet s = some (x, rest)) :
    rest <:+ s := by
  simp only [readOctet, bind, StateT.bind, Option.bind_eq_some_iff] at read
  obtain ⟨⟨n, left⟩, number, read⟩ := read
  simp only at read
  split at read <;> cases read
  exact readNumber_suffix number

theorem after_eq_none {α : Type} {separator : Char} {reader : Reader α} {s : List Char}
    (other : s.head? ≠ some separator) : after separator reader s = none := by
  cases s with
  | nil => rfl
  | cons c s =>
    have differs : c ≠ separator := by simpa using other
    simp [after, Reader.char, bind, StateT.bind, differs]

theorem readV4_eq_none {s : List Char} (plain : '.' ∉ s) : readV4 s = none := by
  cases octet : readOctet s with
  | none => simp [readV4, bind, StateT.bind, octet]
  | some found =>
    have undotted : found.2.head? ≠ some '.' := fun dot =>
      plain ((readOctet_suffix octet).mem (List.mem_of_mem_head? dot))
    simp [readV4, bind, StateT.bind, octet, after_eq_none undotted]

/-! ## Groups -/

def groupDigits (g : UInt16) : List Char := Nat.toDigits 16 g.toNat

theorem readGroup_digits (g : UInt16) {rest : List Char} (parts : Parts 16 rest) :
    readGroup (groupDigits g ++ rest) = some (g, rest) := by
  have below : g.toNat < 65536 := g.toNat_lt
  have number := readNumber_toDigits 4 true (by decide) (by decide) parts
    ((Nat.length_toDigits_le_iff (by decide) (by decide)).mpr (by omega)) (.inl rfl)
  simp [readGroup, groupDigits, bind, StateT.bind, number, Reader.pure_apply]

theorem readGroup_of_parts {s : List Char} (parts : Parts 16 s) : readGroup s = none := by
  simp [readGroup, bind, StateT.bind, readNumber_of_parts parts]

def laterGroups (gs : List UInt16) : List Char := gs.flatMap fun g => ':' :: groupDigits g

theorem joinGroups_toList (gs : List UInt16) : (Ipv6.joinGroups gs).toList =
    match gs with
    | [] => []
    | g :: gs => groupDigits g ++ laterGroups gs := by
  cases gs with
  | nil => simp [Ipv6.joinGroups]
  | cons g gs =>
    have one : (":" : String).toList = [':'] := rfl
    simp only [Ipv6.joinGroups, String.toList_intercalate, one]
    induction gs generalizing g with
    | nil => simp [Ipv6.groupText, groupDigits, laterGroups]
    | cons h gs ih =>
      have rest := ih h
      simp only [List.map_cons, Ipv6.groupText, String.toList_ofList] at rest ⊢
      rw [List.intercalate_cons_cons, rest]
      simp [laterGroups, groupDigits]

theorem dot_not_mem_groupDigits (g : UInt16) : '.' ∉ groupDigits g := by
  intro dot
  have digit := Text.isDigit_of_mem_toDigits (by decide) (by decide) dot
  exact absurd digit (by decide)

theorem dot_not_mem_laterGroups (gs : List UInt16) : '.' ∉ laterGroups gs := by
  intro dot
  obtain ⟨g, _, inside⟩ := List.mem_flatMap.mp dot
  rcases List.mem_cons.mp inside with colon | digit
  · cases colon
  · exact dot_not_mem_groupDigits g digit

/-- What may follow the groups of a text: its end or a double colon. -/
def EndsGroups (rest : List Char) : Prop := rest = [] ∨ ∃ tail, rest = ':' :: ':' :: tail

theorem EndsGroups.parts {rest : List Char} (ends : EndsGroups rest) : Parts 16 rest := by
  rcases ends with rfl | ⟨tail, rfl⟩
  · exact parts_nil 16
  · exact parts_of_head (by decide)

theorem parts_laterGroups {gs : List UInt16} {rest : List Char} (ends : EndsGroups rest) :
    Parts 16 (laterGroups gs ++ rest) := by
  cases gs with
  | nil => exact ends.parts
  | cons g gs => exact parts_of_head (by decide)

theorem readGroups_later (gs : List UInt16) (limit : Nat) {rest : List Char}
    (ends : EndsGroups rest) (undotted : '.' ∉ rest) (few : gs.length ≤ limit) :
    readGroups false limit (laterGroups gs ++ rest) = (gs, false, rest) := by
  induction gs generalizing limit with
  | nil =>
    cases limit with
    | zero => rfl
    | succ limit =>
      have noQuad : after ':' readV4 rest = none := by
        rcases ends with rfl | ⟨tail, rfl⟩
        · rfl
        · rw [after_cons]
          exact readV4_eq_none fun dot => undotted (List.mem_cons_of_mem _ dot)
      have noGroup : after ':' readGroup rest = none := by
        rcases ends with rfl | ⟨tail, rfl⟩
        · rfl
        · rw [after_cons]
          exact readGroup_of_parts (parts_of_head (by decide))
      simp [readGroups, laterGroups, noQuad, noGroup]
  | cons g gs ih =>
    cases limit with
    | zero => cases few
    | succ limit =>
      have more := ih limit (by simpa using few)
      have plain : '.' ∉ groupDigits g ++ (laterGroups gs ++ rest) := by
        simp [dot_not_mem_groupDigits, dot_not_mem_laterGroups, undotted]
      have same : laterGroups (g :: gs) ++ rest = ':' :: (groupDigits g ++ (laterGroups gs ++ rest)) := by
        simp [laterGroups]
      rw [same]
      simp [readGroups, after_cons, readV4_eq_none plain, readGroup_digits g (parts_laterGroups ends),
        more]

theorem readGroups_join (gs : List UInt16) (limit : Nat) {rest : List Char}
    (ends : EndsGroups rest) (undotted : '.' ∉ rest) (few : gs.length ≤ limit) :
    readGroups true limit ((Ipv6.joinGroups gs).toList ++ rest) = (gs, false, rest) := by
  rw [joinGroups_toList]
  cases limit with
  | zero =>
    rw [List.eq_nil_of_length_eq_zero (Nat.le_zero.mp few)]
    rfl
  | succ limit =>
    cases gs with
    | nil => simp [readGroups, readV4_eq_none undotted, readGroup_of_parts ends.parts]
    | cons g gs =>
      have more := readGroups_later gs limit ends undotted (by simpa using few)
      have plain : '.' ∉ groupDigits g ++ (laterGroups gs ++ rest) := by
        simp [dot_not_mem_groupDigits, dot_not_mem_laterGroups, undotted]
      simp [readGroups, readV4_eq_none plain, readGroup_digits g (parts_laterGroups ends), more]

theorem dot_not_mem_joinGroups (gs : List UInt16) : '.' ∉ (Ipv6.joinGroups gs).toList := by
  rw [joinGroups_toList]
  cases gs with
  | nil => simp
  | cons g gs => simp [dot_not_mem_groupDigits, dot_not_mem_laterGroups]

/-! ## The longest run of zeros -/

theorem zerosAhead_spec (gs : List UInt16) :
    gs = List.replicate (Ipv6.zerosAhead gs) 0 ++ gs.drop (Ipv6.zerosAhead gs) := by
  induction gs with
  | nil => rfl
  | cons g gs ih =>
    by_cases zero : g = 0
    · subst zero
      have more : Ipv6.zerosAhead (0 :: gs) = Ipv6.zerosAhead gs + 1 := by simp [Ipv6.zerosAhead]
      rw [more, List.replicate_succ, List.drop_succ_cons, List.cons_append, ← ih]
    · have none : Ipv6.zerosAhead (g :: gs) = 0 := by simp [Ipv6.zerosAhead, zero]
      simp [none]

theorem longestZeros_spec {i start count : Nat} {gs : List UInt16}
    (longest : Ipv6.longestZeros i gs = (start, count)) (some : 0 < count) :
    i ≤ start ∧
      gs = gs.take (start - i) ++ List.replicate count 0 ++ gs.drop (start - i + count) := by
  induction gs generalizing i with
  | nil =>
    cases longest
    cases some
  | cons g gs ih =>
    simp only [Ipv6.longestZeros] at longest
    split at longest
    · cases longest
      refine ⟨Nat.le_refl _, ?_⟩
      simpa using zerosAhead_spec (g :: gs)
    · obtain ⟨later, split⟩ := ih longest
      have next : start - i = start - (i + 1) + 1 := by omega
      refine ⟨by omega, ?_⟩
      rw [next, List.take_succ_cons, Nat.add_right_comm, List.drop_succ_cons]
      exact congrArg (g :: ·) split

/-! ## Addresses -/

theorem readV6_plain (x : Ipv6) : readV6 (Ipv6.joinGroups x.groups).toList = some (x, []) := by
  have read := readGroups_join x.groups 8 (.inl rfl) (by simp) (Nat.le_refl 8)
  rw [List.append_nil] at read
  simp only [readV6, read]
  rfl

theorem readV6_compressed {x : Ipv6} {start count : Nat}
    (longest : Ipv6.longestZeros 0 x.groups = (start, count)) (several : 1 < count) :
    readV6 ((Ipv6.joinGroups (x.groups.take start)).toList ++
      ':' :: ':' :: (Ipv6.joinGroups (x.groups.drop (start + count))).toList) = some (x, []) := by
  obtain ⟨_, split⟩ := longestZeros_spec longest (by omega)
  rw [Nat.sub_zero] at split
  have eight : x.groups.length = 8 := rfl
  have lengths := congrArg List.length split
  simp only [List.length_append, List.length_take, List.length_replicate, List.length_drop, eight]
    at lengths
  have headLength : (x.groups.take start).length = start := by
    rw [List.length_take, eight]
    omega
  have tailLength : (x.groups.drop (start + count)).length = 8 - (start + count) := by
    rw [List.length_drop, eight]
  have parted : EndsGroups
      (':' :: ':' :: (Ipv6.joinGroups (x.groups.drop (start + count))).toList) := .inr ⟨_, rfl⟩
  have ended : EndsGroups [] := .inl rfl
  have head := readGroups_join (x.groups.take start) 8 parted (by simp [dot_not_mem_joinGroups])
    (by omega)
  have tail := readGroups_join (x.groups.drop (start + count)) (7 - start) ended (by simp)
    (by omega)
  rw [List.append_nil] at tail
  have zeros : 8 - start - (8 - (start + count)) = count := by omega
  have open' : start ≠ 8 := by omega
  simp only [readV6, head, headLength, open', if_false, tail, tailLength, zeros]
  rw [← split]
  rfl

theorem readV4_of_parts {s : List Char} (parts : Parts 10 s) : readV4 s = none := by
  simp [readV4, readOctet, bind, StateT.bind, readNumber_of_parts parts]

theorem readV6_embedded (quad : Ipv4) : readV6 ("::ffff:" ++ quad.text).toList =
    some (⟨0, 0, 0, 0, 0, 0xffff, Bytes.word quad.a quad.b, Bytes.word quad.c quad.d⟩, []) := by
  have text : ("::ffff:" ++ quad.text).toList =
      ':' :: ':' :: 'f' :: 'f' :: 'f' :: 'f' :: ':' :: quad.text.toList := by
    rw [String.toList_append]
    rfl
  have colonQuad (s : List Char) : readV4 (':' :: s) = none := readV4_of_parts (parts_of_head rfl)
  have colonGroup (s : List Char) : readGroup (':' :: s) = none :=
    readGroup_of_parts (parts_of_head rfl)
  have letterQuad (s : List Char) : readV4 ('f' :: s) = none := readV4_of_parts (parts_of_head rfl)
  have head (s : List Char) : readGroups true 8 (':' :: s) = ([], false, ':' :: s) := by
    simp [readGroups, colonQuad, colonGroup]
  have group : readGroup ('f' :: 'f' :: 'f' :: 'f' :: ':' :: quad.text.toList) =
      some (0xffff, ':' :: quad.text.toList) :=
    readGroup_digits 0xffff (parts_of_head rfl)
  have read : readV4 quad.text.toList = some (quad, []) := by
    simpa using readV4_text quad (parts_nil 10)
  have tail : readGroups true 7 ('f' :: 'f' :: 'f' :: 'f' :: ':' :: quad.text.toList) =
      ([0xffff, Bytes.word quad.a quad.b, Bytes.word quad.c quad.d], true, []) := by
    simp [readGroups, letterQuad, group, after_cons, read]
  rw [text]
  simp only [readV6, head]
  simp [tail, Ipv6.ofGroups?]

theorem eq_embedded {x : Ipv6} {quad : Ipv4} (mapped : x.mapped? = some quad) :
    x = ⟨0, 0, 0, 0, 0, 0xffff, Bytes.word quad.a quad.b, Bytes.word quad.c quad.d⟩ := by
  unfold Ipv6.mapped? at mapped
  split at mapped
  case isFalse => cases mapped
  case isTrue embeds =>
    cases mapped
    obtain ⟨a, b, c, d, e, f, g, h⟩ := x
    simp only [Ipv6.groups, List.take_succ_cons, List.take_zero, List.cons.injEq, and_true] at embeds
    obtain ⟨rfl, rfl, rfl, rfl, rfl, rfl⟩ := embeds
    simp [Ipv4.readAt, Bytes.ofWord, Bytes.byteAt, Bytes.word_ofWord]

theorem whole?_eq_some {α : Type} {reader : Reader α} {s : String} {a : α}
    (read : reader s.toList = some (a, [])) : reader.whole? s = some a := by
  simp [Reader.whole?, Reader.atEnd, bind, StateT.bind, read, Reader.pure_apply]

theorem whole?_eq_none {α : Type} {reader : Reader α} {s : String}
    (refused : reader s.toList = none) : reader.whole? s = none := by
  simp [Reader.whole?, bind, StateT.bind, refused]

/-- An address is what its text reads as. -/
theorem ofText?_text (a : IpAddress) : ofText? a.text = some a := by
  cases a with
  | v4 x =>
    have read := readV4_text x (parts_nil 10)
    rw [List.append_nil] at read
    simp [ofText?, text, whole?_eq_some read]
  | v6 x =>
    suffices read : readV4 x.text.toList = none ∧ readV6 x.text.toList = some (x, []) by
      simp [ofText?, text, whole?_eq_none read.1, whole?_eq_some read.2]
    unfold Ipv6.text
    cases mapped : x.mapped? with
    | some quad =>
      refine ⟨readV4_of_parts ?_, ?_⟩
      · rw [String.toList_append]
        exact parts_of_head rfl
      · rw [readV6_embedded, ← eq_embedded mapped]
    | none =>
      cases longest : Ipv6.longestZeros 0 x.groups with
      | mk start count =>
        simp only
        split
        case isTrue several =>
          have two : ("::" : String).toList = [':', ':'] := rfl
          simp only [String.toList_append, two, List.append_assoc, List.cons_append, List.nil_append]
          exact ⟨readV4_eq_none (by simp [dot_not_mem_joinGroups]), readV6_compressed longest several⟩
        case isFalse => exact ⟨readV4_eq_none (dot_not_mem_joinGroups _), readV6_plain x⟩

end IpAddress
end CaptureQueue
