import CaptureQueue.Config
import CaptureQueue.Proofs.Filter.Flaw
import Mathlib.Data.List.DropRight

/-! What validation asks of a configuration, and which of several faults it tells: that of the sizes, of
the filters in their order and of the level of logging that comes first. -/

set_option autoImplicit false
namespace CaptureQueue

/-! ## Names and levels -/

theorem Text.trim_eq_nil_iff {s : List Char} : trim s = [] ↔ ∀ c ∈ s, isBlank c = true := by
  have ends : trim s = (s.dropWhile isBlank).rdropWhile isBlank := rfl
  rw [ends, List.rdropWhile_eq_nil_iff]
  constructor
  · intro blank
    rw [← List.dropWhile_eq_nil_iff]
    -- What is left behind the blanks at the front would start with a character that is none.
    by_contra left
    have first := List.head_dropWhile_not isBlank left
    rw [blank _ (List.head_mem left)] at first
    cases first
  · intro blank c left
    exact blank c ((List.dropWhile_suffix isBlank).subset left)

theorem Level.isSome_ofName?_iff {s : String} : (ofName? s).isSome = true ↔
    ∃ name ∈ ["trace", "debug", "info", "warn", "error"], Text.lowerAscii s.toList = name.toList := by
  have lower : all.map (fun level => Text.lowerAscii level.name.toList) =
      (["trace", "debug", "info", "warn", "error"].map String.toList).reverse := by decide
  have known : (ofName? s).isSome = true ↔
      Text.lowerAscii s.toList ∈ all.map fun level => Text.lowerAscii level.name.toList := by
    simp [ofName?, List.find?_isSome]
  rw [known, lower, List.mem_reverse, List.mem_map]
  simp only [eq_comm]

namespace NamedRule

def Blank (f : NamedRule) : Prop := ∀ c ∈ f.name.toList, Text.isBlank c = true

/-- Nothing is wrong with a filter that comes after others of these names. -/
structure Sound (earlier : List String) (f : NamedRule) : Prop where
  named : ¬ f.Blank
  fresh : f.name ∉ earlier
  ported : .port 0 ∉ f.rule.parts
  ordered : ∀ min max, .length ⟨some min, some max⟩ ∈ f.rule.parts → min ≤ max

def flaw? (index : Nat) (earlier : List String) (f : NamedRule) : Option ConfigFlaw :=
  if (Text.trim f.name.toList).isEmpty then some (.blankFilterName index)
  else if earlier.contains f.name then some (.repeatedFilterName index f.name)
  else f.rule.flaw?.map (.ruleFlaw index)

section

variable {index : Nat} {earlier : List String} {f : NamedRule}

theorem blank_iff : (Text.trim f.name.toList).isEmpty = true ↔ f.Blank := by
  rw [List.isEmpty_iff, Text.trim_eq_nil_iff, Blank]

theorem flaw?_of_blank (blank : f.Blank) : f.flaw? index earlier = some (.blankFilterName index) :=
  if_pos (blank_iff.mpr blank)

theorem flaw?_of_repeated (named : ¬ f.Blank) (taken : f.name ∈ earlier) :
    f.flaw? index earlier = some (.repeatedFilterName index f.name) := by
  rw [flaw?, if_neg (mt blank_iff.mp named), if_pos (List.contains_iff_mem.mpr taken)]

theorem flaw?_of_fresh (named : ¬ f.Blank) (fresh : f.name ∉ earlier) :
    f.flaw? index earlier = f.rule.flaw?.map (.ruleFlaw index) := by
  rw [flaw?, if_neg (mt blank_iff.mp named), if_neg (mt List.contains_iff_mem.mp fresh)]

theorem flaw?_congr {others : List String} (same : f.name ∈ earlier ↔ f.name ∈ others) :
    f.flaw? index earlier = f.flaw? index others := by
  have contained : earlier.contains f.name = others.contains f.name := by
    rw [Bool.eq_iff_iff, List.contains_iff_mem, List.contains_iff_mem, same]
  rw [flaw?, flaw?, contained]

theorem flaw?_eq_none_iff : f.flaw? index earlier = none ↔ f.Sound earlier := by
  by_cases blank : f.Blank
  · rw [flaw?_of_blank blank]
    exact iff_of_false (fun found => by cases found) fun sound => sound.named blank
  by_cases taken : f.name ∈ earlier
  · rw [flaw?_of_repeated blank taken]
    exact iff_of_false (fun found => by cases found) fun sound => sound.fresh taken
  · rw [flaw?_of_fresh blank taken, Option.map_eq_none_iff, FilterRule.flaw?_eq_none_iff]
    exact ⟨fun rule => ⟨blank, taken, rule.1, rule.2⟩, fun sound => ⟨sound.ported, sound.ordered⟩⟩

end
end NamedRule

/-! ## Filters in their order -/

theorem findSome?_range_eq_some_iff {α : Type} {f : Nat → Option α} {n : Nat} {a : α} :
    (List.range n).findSome? f = some a ↔ ∃ i < n, f i = some a ∧ ∀ j < i, f j = none := by
  induction n with
  | zero => simp
  | succ n ih =>
    rw [List.range_succ, List.findSome?_append, Option.or_eq_some_iff, ih, List.findSome?_singleton,
      List.findSome?_eq_none_iff, Nat.exists_lt_succ_right]
    simp only [List.mem_range]
    exact or_congr Iff.rfl And.comm

namespace Config

def namesBefore (filters : List NamedRule) (i : Nat) : List String := (filters.take i).map (·.name)

def filterFlaw? (filters : List NamedRule) (i : Nat) : Option ConfigFlaw :=
  filters[i]?.bind fun f => f.flaw? i (namesBefore filters i)

theorem filtersFlaw?_cons (index : Nat) (seen : List String) (f : NamedRule) (rest : List NamedRule) :
    filtersFlaw? index seen (f :: rest) =
      (f.flaw? index seen).or (filtersFlaw? (index + 1) (f.name :: seen) rest) := by
  rw [filtersFlaw?, NamedRule.flaw?]
  split
  · rfl
  · split
    · rfl
    · cases f.rule.flaw? <;> rfl

/-- From the filters passed on, the next is looked at with the names of all before it. -/
theorem filtersFlaw?_eq_findSome? (before rest : List NamedRule) {seen : List String}
    (same : ∀ name, name ∈ seen ↔ name ∈ before.map (·.name)) :
    filtersFlaw? before.length seen rest =
      (List.range' before.length rest.length).findSome? (filterFlaw? (before ++ rest)) := by
  induction rest generalizing before seen with
  | nil => rfl
  | cons f rest ih =>
    have here : filterFlaw? (before ++ f :: rest) before.length = f.flaw? before.length seen := by
      rw [filterFlaw?, List.getElem?_append_right (Nat.le_refl _), Nat.sub_self, namesBefore,
        List.take_left]
      exact NamedRule.flaw?_congr (same f.name).symm
    have more : ∀ name, name ∈ f.name :: seen ↔ name ∈ (before ++ [f]).map (·.name) := by
      simp [same, or_comm]
    have next := ih (before ++ [f]) more
    rw [List.length_append, List.length_singleton, List.append_assoc, List.singleton_append] at next
    rw [filtersFlaw?_cons, next, List.length_cons, List.range'_succ, List.findSome?_cons, here]
    cases f.flaw? before.length seen <;> rfl

theorem filtersFlaw?_eq (filters : List NamedRule) :
    filtersFlaw? 0 [] filters = (List.range filters.length).findSome? (filterFlaw? filters) := by
  rw [List.range_eq_range']
  exact filtersFlaw?_eq_findSome? [] filters (by simp)

def SoundBefore (filters : List NamedRule) (i : Nat) : Prop :=
  ∀ j < i, ∀ f, filters[j]? = some f → f.Sound (namesBefore filters j)

theorem filterFlaw?_eq_none_iff {filters : List NamedRule} {i : Nat} : filterFlaw? filters i = none ↔
    ∀ f, filters[i]? = some f → f.Sound (namesBefore filters i) := by
  simp only [filterFlaw?, Option.bind_eq_none_iff, NamedRule.flaw?_eq_none_iff]

theorem filtersFlaw?_eq_some_iff {filters : List NamedRule} {flaw : ConfigFlaw} :
    filtersFlaw? 0 [] filters = some flaw ↔ ∃ i f, filters[i]? = some f ∧ SoundBefore filters i ∧
      f.flaw? i (namesBefore filters i) = some flaw := by
  rw [filtersFlaw?_eq, findSome?_range_eq_some_iff]
  simp only [filterFlaw?_eq_none_iff]
  constructor
  · rintro ⟨i, _, found, before⟩
    obtain ⟨f, here, found⟩ := Option.bind_eq_some_iff.mp found
    exact ⟨i, f, here, before, found⟩
  · rintro ⟨i, f, here, before, found⟩
    exact ⟨i, (List.getElem?_eq_some_iff.mp here).1, Option.bind_eq_some_iff.mpr ⟨f, here, found⟩, before⟩

theorem filtersFlaw?_eq_none_iff {filters : List NamedRule} :
    filtersFlaw? 0 [] filters = none ↔ SoundBefore filters filters.length := by
  rw [filtersFlaw?_eq, List.findSome?_eq_none_iff]
  simp only [List.mem_range, filterFlaw?_eq_none_iff, SoundBefore]

theorem nodup_iff_not_mem_take {α : Type} {l : List α} :
    l.Nodup ↔ ∀ i (inside : i < l.length), l[i] ∉ l.take i := by
  rw [List.Nodup, List.pairwise_iff_getElem]
  constructor
  · intro apart i inside member
    obtain ⟨j, earlier, same⟩ := List.mem_take_iff_getElem.mp member
    exact apart j i _ inside (by omega) same
  · intro fresh i j _ inside earlier same
    exact fresh j inside (List.mem_take_iff_getElem.mpr ⟨i, by omega, same⟩)

theorem soundBefore_length_iff {filters : List NamedRule} : SoundBefore filters filters.length ↔
    (∀ f ∈ filters, ¬ f.Blank) ∧ (filters.map (·.name)).Nodup ∧
      (∀ f ∈ filters, .port 0 ∉ f.rule.parts) ∧
      ∀ f ∈ filters, ∀ min max, .length ⟨some min, some max⟩ ∈ f.rule.parts → min ≤ max := by
  have distinct : (filters.map (·.name)).Nodup ↔
      ∀ i (inside : i < filters.length), filters[i].name ∉ namesBefore filters i := by
    simp [nodup_iff_not_mem_take, namesBefore, List.map_take]
  rw [distinct]
  constructor
  · intro sound
    have each (i : Nat) (inside : i < filters.length) : filters[i].Sound (namesBefore filters i) :=
      sound i inside _ (List.getElem?_eq_getElem inside)
    simp only [List.forall_mem_iff_getElem]
    exact ⟨fun i inside => (each i inside).named, fun i inside => (each i inside).fresh,
      fun i inside => (each i inside).ported, fun i inside => (each i inside).ordered⟩
  · rintro ⟨named, fresh, ported, ordered⟩ i inside f here
    obtain ⟨_, rfl⟩ := List.getElem?_eq_some_iff.mp here
    exact ⟨named _ (List.getElem_mem _), fresh i inside, ported _ (List.getElem_mem _),
      ordered _ (List.getElem_mem _)⟩

/-! ## The whole configuration -/

structure Sized (c : Config) : Prop where
  capacity : 1 ≤ c.queue.capacity
  snaplen : 1 ≤ c.capture.snaplen
  readTimeout : 1 ≤ c.capture.readTimeout

def LevelKnown (c : Config) : Prop :=
  ∃ name ∈ ["trace", "debug", "info", "warn", "error"],
    Text.lowerAscii c.logging.level.toList = name.toList

instance (c : Config) : Decidable c.LevelKnown :=
  inferInstanceAs (Decidable (∃ name ∈ ["trace", "debug", "info", "warn", "error"],
    Text.lowerAscii c.logging.level.toList = name.toList))

structure Meaningful (c : Config) : Prop where
  sized : c.Sized
  named : ∀ f ∈ c.filters, ¬ f.Blank
  distinct : (c.filters.map (·.name)).Nodup
  ported : ∀ f ∈ c.filters, .port 0 ∉ f.rule.parts
  ordered : ∀ f ∈ c.filters, ∀ min max, .length ⟨some min, some max⟩ ∈ f.rule.parts → min ≤ max
  level : c.LevelKnown

/-- The first thing that is wrong with a configuration: where it is, and what is said of it. -/
inductive FirstFault (c : Config) : (key message : String) → Prop
  | capacity (zero : c.queue.capacity = 0) :
    FirstFault c "queue.capacity" "must be a positive integer"
  | snaplen (capacity : 1 ≤ c.queue.capacity) (zero : c.capture.snaplen = 0) :
    FirstFault c "capture.snaplen" "must be at least 1 byte"
  | readTimeout (capacity : 1 ≤ c.queue.capacity) (snaplen : 1 ≤ c.capture.snaplen)
    (zero : c.capture.readTimeout = 0) :
    FirstFault c "capture.read_timeout_ms" "must be at least 1 ms"
  | blankName {i : Nat} {f : NamedRule} (sized : c.Sized) (here : c.filters[i]? = some f)
    (before : SoundBefore c.filters i) (blank : f.Blank) :
    FirstFault c s!"filters[{i}].name" "must not be empty"
  | repeatedName {i : Nat} {f : NamedRule} (sized : c.Sized) (here : c.filters[i]? = some f)
    (before : SoundBefore c.filters i) (named : ¬ f.Blank)
    (taken : f.name ∈ namesBefore c.filters i) :
    FirstFault c s!"filters[{i}].name" ("duplicate filter name '" ++ f.name ++ "'")
  | rule {i : Nat} {f : NamedRule} {message : String} (sized : c.Sized)
    (here : c.filters[i]? = some f) (before : SoundBefore c.filters i) (named : ¬ f.Blank)
    (fresh : f.name ∉ namesBefore c.filters i) (offence : f.rule.FirstOffence message) :
    FirstFault c s!"filters[{i}].rule" message
  | level (sized : c.Sized) (filters : SoundBefore c.filters c.filters.length)
    (unknown : ¬ c.LevelKnown) :
    FirstFault c "logging.level" ("unknown level '" ++ c.logging.level ++ "', expected one of " ++
      "trace, debug, info, warn, error")

section

variable {c : Config}

theorem flaw?_of_capacity (zero : c.queue.capacity = 0) : c.flaw? = some .capacityZero := if_pos zero

theorem flaw?_of_snaplen (capacity : 1 ≤ c.queue.capacity) (zero : c.capture.snaplen = 0) :
    c.flaw? = some .snaplenZero := by
  rw [flaw?, if_neg (Nat.ne_of_gt capacity), if_pos zero]

theorem flaw?_of_readTimeout (capacity : 1 ≤ c.queue.capacity) (snaplen : 1 ≤ c.capture.snaplen)
    (zero : c.capture.readTimeout = 0) : c.flaw? = some .readTimeoutZero := by
  rw [flaw?, if_neg (Nat.ne_of_gt capacity), if_neg (Nat.ne_of_gt snaplen), if_pos zero]

theorem flaw?_of_sized (sized : c.Sized) : c.flaw? = (filtersFlaw? 0 [] c.filters).or
    (if c.LevelKnown then none else some (.unknownLevel c.logging.level)) := by
  rw [flaw?, if_neg (Nat.ne_of_gt sized.capacity), if_neg (Nat.ne_of_gt sized.snaplen),
    if_neg (Nat.ne_of_gt sized.readTimeout)]
  simp only [Level.isSome_ofName?_iff, LevelKnown]
  cases filtersFlaw? 0 [] c.filters <;> rfl

theorem sized_or_fault (c : Config) :
    c.Sized ∨ ∃ flaw, c.flaw? = some flaw ∧ c.FirstFault flaw.key flaw.message := by
  rcases Nat.eq_zero_or_pos c.queue.capacity with zero | capacity
  · exact .inr ⟨_, flaw?_of_capacity zero, .capacity zero⟩
  rcases Nat.eq_zero_or_pos c.capture.snaplen with zero | snaplen
  · exact .inr ⟨_, flaw?_of_snaplen capacity zero, .snaplen capacity zero⟩
  rcases Nat.eq_zero_or_pos c.capture.readTimeout with zero | readTimeout
  · exact .inr ⟨_, flaw?_of_readTimeout capacity snaplen zero, .readTimeout capacity snaplen zero⟩
  · exact .inl ⟨capacity, snaplen, readTimeout⟩

theorem FirstFault.of_filter {i : Nat} {f : NamedRule} {flaw : ConfigFlaw} (sized : c.Sized)
    (here : c.filters[i]? = some f) (before : SoundBefore c.filters i)
    (found : f.flaw? i (namesBefore c.filters i) = some flaw) : c.FirstFault flaw.key flaw.message := by
  by_cases blank : f.Blank
  · rw [NamedRule.flaw?_of_blank blank] at found
    cases found
    exact .blankName sized here before blank
  by_cases taken : f.name ∈ namesBefore c.filters i
  · rw [NamedRule.flaw?_of_repeated blank taken] at found
    cases found
    exact .repeatedName sized here before blank taken
  · rw [NamedRule.flaw?_of_fresh blank taken] at found
    obtain ⟨own, first, rfl⟩ := Option.map_eq_some_iff.mp found
    exact .rule sized here before blank taken (FilterRule.firstOffence_iff.mpr ⟨own, first, rfl⟩)

theorem firstFault_of_flaw? {flaw : ConfigFlaw} (found : c.flaw? = some flaw) :
    c.FirstFault flaw.key flaw.message := by
  obtain sized | ⟨first, told, fault⟩ := c.sized_or_fault
  · rw [flaw?_of_sized sized, Option.or_eq_some_iff] at found
    obtain filter | ⟨sound, level⟩ := found
    · obtain ⟨i, f, here, before, found⟩ := filtersFlaw?_eq_some_iff.mp filter
      exact .of_filter sized here before found
    · split at level
      case isTrue => cases level
      case isFalse unknown =>
        cases level
        exact .level sized (filtersFlaw?_eq_none_iff.mp sound) unknown
  · cases told.symm.trans found
    exact fault

/-- The fault of a filter is told if the filters before it are sound. -/
theorem flaw?_of_filter {i : Nat} {f : NamedRule} {flaw : ConfigFlaw} (sized : c.Sized)
    (here : c.filters[i]? = some f) (before : SoundBefore c.filters i)
    (found : f.flaw? i (namesBefore c.filters i) = some flaw) : c.flaw? = some flaw := by
  rw [flaw?_of_sized sized, filtersFlaw?_eq_some_iff.mpr ⟨i, f, here, before, found⟩]
  rfl

theorem exists_flaw?_of_firstFault {key message : String} (fault : c.FirstFault key message) :
    ∃ flaw, c.flaw? = some flaw ∧ flaw.key = key ∧ flaw.message = message := by
  cases fault with
  | capacity zero => exact ⟨_, flaw?_of_capacity zero, rfl, rfl⟩
  | snaplen capacity zero => exact ⟨_, flaw?_of_snaplen capacity zero, rfl, rfl⟩
  | readTimeout capacity snaplen zero =>
    exact ⟨_, flaw?_of_readTimeout capacity snaplen zero, rfl, rfl⟩
  | blankName sized here before blank =>
    exact ⟨_, flaw?_of_filter sized here before (NamedRule.flaw?_of_blank blank), rfl, rfl⟩
  | repeatedName sized here before named taken =>
    exact ⟨_, flaw?_of_filter sized here before (NamedRule.flaw?_of_repeated named taken), rfl, rfl⟩
  | @rule i f _ sized here before named fresh offence =>
    obtain ⟨own, first, same⟩ := FilterRule.firstOffence_iff.mp offence
    have found : f.flaw? i (namesBefore c.filters i) = some (.ruleFlaw i own) := by
      rw [NamedRule.flaw?_of_fresh named fresh, first, Option.map_some]
    exact ⟨_, flaw?_of_filter sized here before found, rfl, same⟩
  | level sized filters unknown =>
    refine ⟨.unknownLevel c.logging.level, ?_, rfl, rfl⟩
    rw [flaw?_of_sized sized, filtersFlaw?_eq_none_iff.mpr filters, if_neg unknown]
    rfl

theorem flaw?_eq_none_iff : c.flaw? = none ↔ c.Meaningful := by
  have decided (sized : c.Sized) : c.flaw? = none ↔ c.Meaningful := by
    have level : (if c.LevelKnown then none else some (ConfigFlaw.unknownLevel c.logging.level)) =
        none ↔ c.LevelKnown := by
      split <;> simp [*]
    rw [flaw?_of_sized sized, Option.or_eq_none_iff, filtersFlaw?_eq_none_iff, soundBefore_length_iff,
      level]
    constructor
    · rintro ⟨⟨named, distinct, ported, ordered⟩, known⟩
      exact ⟨sized, named, distinct, ported, ordered, known⟩
    · intro h
      exact ⟨⟨h.named, h.distinct, h.ported, h.ordered⟩, h.level⟩
  obtain sized | ⟨flaw, told, _⟩ := c.sized_or_fault
  · exact decided sized
  · constructor
    · intro none
      cases told.symm.trans none
    · intro h
      exact (decided h.sized).mpr h

/-- Validation passes what is asked of a configuration and nothing else, and of all that is wrong it
tells what comes first. -/
theorem validation_tells_first (c : Config) :
    (c.validate = .ok () ↔ c.Meaningful) ∧
    ∀ e, c.validate = .error e ↔
      ∃ key message, c.FirstFault key message ∧ e = .invalidConfiguration key message := by
  unfold validate
  refine ⟨?_, fun e => ?_⟩
  · rw [← flaw?_eq_none_iff]
    cases c.flaw? <;> simp
  · constructor
    · intro failed
      cases found : c.flaw? with
      | none =>
        rw [found] at failed
        cases failed
      | some flaw =>
        rw [found] at failed
        cases failed
        exact ⟨flaw.key, flaw.message, firstFault_of_flaw? found, rfl⟩
    · rintro ⟨key, message, fault, rfl⟩
      obtain ⟨flaw, found, rfl, rfl⟩ := exists_flaw?_of_firstFault fault
      rw [found]
      rfl

end

/-- Of three faults that of the first filter, inside its rule. -/
example : ({ filters := [⟨"web", .not (.any [.port 80, .port 0])⟩, ⟨" ", .length {}⟩],
             logging := { level := "loud" } } : Config).validate =
    .error (.invalidConfiguration "filters[0].rule" "port must be in 1-65535") := by rfl

end Config
end CaptureQueue
