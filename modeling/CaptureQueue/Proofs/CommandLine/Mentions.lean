import CaptureQueue.Proofs.CommandLine.Gifts
import Mathlib.Data.List.Forall2

/-! How often the words of a command line name an argument that takes no value. What they leave behind
for it is that number, by the last command on the way that has the argument named. -/

set_option autoImplicit false
namespace CaptureQueue.CommandLine

/-- How far an argument counts that takes no value. -/
def Effect.limit? : Effect → Option Nat
  | .flag => some 1
  | .count => some Argument.countLimit
  | .value _ _ | .help | .version => none

/-- Under that name are only arguments that count so far, and none takes them back. -/
def Command.Counts (root : Command) (name : String) (limit : Nat) : Prop :=
  ∀ a, root.Declares a → name ∉ a.replaces ∧ (a.name = name → a.effect.limit? = some limit)

/-! ## What words name -/

def Station.mentionsAmong (s : Station) (name : String) : List Char → Nat
  | [] => 0
  | c :: rest =>
    match s.options.find? (·.short == some c) with
    | none => 0
    | some a => (if a.name = name then 1 else 0) +
        if a.effect.takesValue then 0 else s.mentionsAmong name rest

def Frame.mentions (f : Frame) (name : String) (word : String) : Nat :=
  if f.literal then 0
  else
    match word.toList with
    | ['-', '-'] => 0
    | '-' :: '-' :: s => if String.ofList (s.takeWhile (· != '=')) = name then 1 else 0
    | '-' :: c :: s => f.mentionsAmong name (c :: s)
    | _ => 0

/-- How often each command on the way has the argument named, the last command first. -/
def mentionsBy (name : String) (inner : Frame) (own : Nat) (outer : List Nat) :
    List String → List Nat
  | [] => own :: outer
  | word :: rest =>
    match if inner.takesSubcommand then Command.named? word inner.command.subcommands else none with
    | some sub =>
      let next := Station.ofCommand inner.path inner.shared sub
      mentionsBy name { toStation := next } 0 (own :: outer) rest
    | none =>
      match inner.readWord word with
      | .ok f => mentionsBy name f (own + inner.mentions name word) outer rest
      | .error _ => own :: outer

def firstPositive (ns : List Nat) : Nat := (ns.find? (0 < ·)).getD 0

/-- How often the argument is named by the last command that has it named. -/
def Command.timesNamed (c : Command) (name : String) (words : List String) : Nat :=
  firstPositive (mentionsBy name { toStation := .ofCommand [] [] c } 0 [] words)

variable {root : Command} {name : String} {limit n k : Nat}

/-! ## Gifts -/

namespace Gifts

variable {g : Gifts} {other : String} {given : Given}

/-- Under that name is a number from the words, and nothing if the number is zero. -/
def Tells (g : Gifts) (name : String) (n : Nat) : Prop :=
  g.filter (·.1 == name) = if n = 0 then [] else [(name, ⟨.words, .number n⟩)]

theorem Tells.nil (name : String) : Tells [] name 0 := rfl

theorem find?_eq (g : Gifts) (name : String) :
    g.find? name = (g.filter (·.1 == name)).head?.map (·.2) := by
  induction g with
  | nil => rfl
  | cons entry rest ih =>
    obtain ⟨first, given⟩ := entry
    by_cases same : first = name
    · subst same
      simp [find?]
    · have apart : (name == first) = false := by simp [Ne.symm same]
      rw [find?] at ih ⊢
      simp [List.lookup_cons, apart, same, ih]

theorem Tells.find? (h : g.Tells name n) :
    g.find? name = if n = 0 then none else some ⟨.words, .number n⟩ := by
  rw [find?_eq, h]
  split <;> rfl

theorem Tells.drop (h : g.Tells name n) (apart : other ≠ name) : (g.drop other).Tells name n := by
  unfold Tells at h ⊢
  rw [← h, Gifts.drop, List.filter_filter]
  refine List.filter_congr fun entry _ => ?_
  by_cases same : entry.1 = name
  · simp [same, Ne.symm apart]
  · simp [same]

theorem Tells.put_other (h : g.Tells name n) (apart : other ≠ name) (given : Given) :
    (g.put other given).Tells name n := by
  have dropped := h.drop apart
  unfold Tells at dropped ⊢
  rw [Gifts.put, List.filter_append, dropped]
  simp [apart]

theorem Tells.put (g : Gifts) (name : String) (positive : n ≠ 0) :
    (g.put name ⟨.words, .number n⟩).Tells name n := by
  unfold Tells
  rw [Gifts.put, List.filter_append, Gifts.drop, List.filter_filter, if_neg positive]
  simp

theorem Tells.refine {outer inner : Gifts} (h : outer.Tells name n) (h' : inner.Tells name k) :
    (outer.refine inner).Tells name (if k = 0 then n else k) := by
  unfold Gifts.refine
  -- There is one entry under the name at most, and behind it none.
  induction inner generalizing outer n k with
  | nil =>
    cases k with
    | zero => exact h
    | succ k => simp [Tells] at h'
  | cons entry rest ih =>
    obtain ⟨first, given⟩ := entry
    rw [List.foldl_cons]
    by_cases same : first = name
    · subst same
      cases k with
      | zero => simp [Tells] at h'
      | succ k =>
        obtain ⟨rfl, none⟩ : given = ⟨.words, .number (k + 1)⟩ ∧ Tells rest first 0 := by
          simpa [Tells] using h'
        have told := ih (Tells.put outer first (Nat.succ_ne_zero k)) none
        rw [if_pos rfl] at told
        dsimp only
        split
        · exact told
        · exact told
    · have rest' : Tells rest name k := by simpa [Tells, same] using h'
      refine ih ?_ rest'
      have put := h.put_other same given
      dsimp only
      split
      · split
        · exact put
        · exact h
      · exact put

end Gifts

/-! ## One command -/

theorem Command.Counts.apart {a : Argument} {kind : ValueKind} {label : String}
    (counts : root.Counts name limit) (declared : root.Declares a)
    (effect : a.effect = .value kind label) : a.name ≠ name := by
  intro same
  have limited := (counts a declared).2 same
  rw [effect] at limited
  cases limited

namespace Frame

variable {f f' : Frame} {a : Argument} {s : String}

theorem tells_keep (counts : root.Counts name limit) (declared : root.Declares a)
    (apart : a.name ≠ name) (told : f.gifts.Tells name n) (source : Source) (v : Value) :
    (f.keep a source v).gifts.Tells name n := by
  have stays := (counts a declared).1
  refine Gifts.Tells.put_other ?_ apart _
  split
  · refine List.foldlRecOn (motive := fun g => Gifts.Tells g name n) a.replaces Gifts.drop told
      fun g told other member => told.drop ?_
    rintro rfl
    exact stays member
  · exact told

theorem tells_acceptText (counts : root.Counts name limit) (declared : root.Declares a)
    (told : f.gifts.Tells name n) (accepted : f.acceptText a s = .ok f') :
    a.name ≠ name ∧ f'.gifts.Tells name n ∧ f'.toStation = f.toStation := by
  unfold Frame.acceptText at accepted
  obtain ⟨_, _, accepted⟩ := bind_eq_ok.mp accepted
  cases effect : a.effect with
  | value kind label =>
    rw [effect] at accepted
    obtain ⟨v, _, kept⟩ := bind_eq_ok.mp accepted
    cases kept
    have apart := counts.apart declared effect
    exact ⟨apart, tells_keep counts declared apart told _ _, rfl⟩
  | flag | count | help | version =>
    rw [effect] at accepted
    cases accepted

theorem tells_resolve (counts : root.Counts name limit) (h : f.Sound root)
    (told : f.gifts.Tells name n) (resolved : f.resolve = .ok f') :
    f'.gifts.Tells name n ∧ f'.toStation = f.toStation := by
  unfold Frame.resolve at resolved
  cases pending : f.pending with
  | none =>
    rw [pending] at resolved
    cases resolved
    exact ⟨told, rfl⟩
  | awaiting a =>
    rw [pending] at resolved
    cases resolved
  | supplied a s =>
    rw [pending] at resolved
    have declared := h.pending a (by rw [pending]; rfl)
    exact (tells_acceptText (f := { f with pending := .none }) counts declared told resolved).2

theorem eq_zero_of_refuseRepeated {u : Unit} (told : f.gifts.Tells a.name (min 1 n))
    (once : f.refuseRepeated a = .ok u) : n = 0 := by
  unfold Frame.refuseRepeated at once
  split at once
  case isTrue => cases once
  case isFalse absent =>
    rw [told.find?] at absent
    by_cases none : min 1 n = 0
    · omega
    · simp [none] at absent

theorem tells_keep_next {before : Nat} (known : before = min Argument.countLimit n) :
    (f.keep a .words (.number (min (before + 1) Argument.countLimit))).gifts.Tells a.name
      (min Argument.countLimit (n + 1)) := by
  have next : min (min Argument.countLimit n + 1) Argument.countLimit =
      min Argument.countLimit (n + 1) := by omega
  rw [known, next]
  exact Gifts.Tells.put _ _ (by simp [Argument.countLimit])

theorem tells_note (counts : root.Counts name limit) (h : f.Sound root) (declared : root.Declares a)
    (told : f.gifts.Tells name (min limit n)) (noted : f.note a = .ok f') :
    f'.gifts.Tells name (min limit (n + if a.name = name then 1 else 0)) ∧
      f'.toStation = f.toStation := by
  unfold Frame.note at noted
  obtain ⟨resolved, done, noted⟩ := bind_eq_ok.mp noted
  obtain ⟨told, station⟩ := tells_resolve counts h told done
  have limited := (counts a declared).2
  cases effect : a.effect with
  | flag =>
    rw [effect] at noted limited
    obtain ⟨_, once, kept⟩ := bind_eq_ok.mp noted
    cases kept
    refine ⟨?_, station⟩
    by_cases same : a.name = name
    · subst same
      cases limited rfl
      rw [eq_zero_of_refuseRepeated told once, if_pos rfl]
      exact Gifts.Tells.put _ _ Nat.one_ne_zero
    · rw [if_neg same]
      exact tells_keep counts declared same told _ _
  | count =>
    rw [effect] at noted limited
    cases noted
    refine ⟨?_, station⟩
    by_cases same : a.name = name
    · subst same
      cases limited rfl
      rw [if_pos rfl]
      refine tells_keep_next ?_
      rw [told.find?]
      by_cases none : min Argument.countLimit n = 0
      · simp [none]
      · simp [none]
    · rw [if_neg same]
      exact tells_keep counts declared same told _ _
  | value kind label =>
    rw [effect] at noted
    cases noted
    rw [if_neg (counts.apart declared effect)]
    exact ⟨told, station⟩
  | help | version =>
    rw [effect] at noted
    cases noted

theorem tells_attach (counts : root.Counts name limit) (h : f.Sound root)
    (declared : root.Declares a) (told : f.gifts.Tells name n) (attached : f.attach a s = .ok f') :
    a.name ≠ name ∧ f'.gifts.Tells name n := by
  obtain ⟨resolved, done, accepted⟩ := bind_eq_ok.mp attached
  obtain ⟨told, _⟩ := tells_resolve counts h told done
  obtain ⟨apart, told, _⟩ := tells_acceptText counts declared told accepted
  exact ⟨apart, told⟩

theorem tells_readLong {value : Option String} (counts : root.Counts name limit) (h : f.Sound root)
    (told : f.gifts.Tells name (min limit n)) (read : f.readLong s value = .ok f') :
    f'.gifts.Tells name (min limit (n + if s = name then 1 else 0)) := by
  unfold Frame.readLong at read
  cases found : f.long? s with
  | none =>
    rw [found] at read
    cases read
  | some a =>
    have declared := h.declared a (mem_of_long? found)
    have named : a.name = s := by simpa using List.find?_some found
    rw [found] at read
    subst named
    cases value with
    | none => exact (tells_note counts h declared told read).1
    | some text =>
      dsimp only at read
      split at read
      · obtain ⟨apart, told⟩ := tells_attach counts h declared told read
        rw [if_neg apart]
        exact told
      · cases read

theorem tells_readShorts {letters : List Char} (counts : root.Counts name limit) (h : f.Sound root)
    (told : f.gifts.Tells name (min limit n)) (read : f.readShorts letters = .ok f') :
    f'.gifts.Tells name (min limit (n + f.mentionsAmong name letters)) := by
  induction letters generalizing f n with
  | nil =>
    cases read
    exact told
  | cons c rest ih =>
    unfold Frame.readShorts at read
    unfold Station.mentionsAmong
    cases found : f.short? c with
    | none =>
      rw [found] at read
      cases read
    | some a =>
      have declared := h.declared a (mem_of_short? found)
      rw [found] at read
      rw [show f.options.find? (·.short == some c) = some a from found]
      dsimp only at read ⊢
      split at read
      case isTrue takes =>
        rw [if_pos takes, Nat.add_zero]
        have attached {s : String} (attached : f.attach a s = .ok f') :
            f'.gifts.Tells name (min limit (n + if a.name = name then 1 else 0)) := by
          obtain ⟨apart, told⟩ := tells_attach counts h declared told attached
          rw [if_neg apart]
          exact told
        split at read
        · exact (tells_note counts h declared told read).1
        · exact attached read
        · exact attached read
      case isFalse plain =>
        obtain ⟨noted, done, read⟩ := bind_eq_ok.mp read
        obtain ⟨told, station⟩ := tells_note counts h declared told done
        have later := ih (h.note declared done) told read
        rw [if_neg plain, ← Nat.add_assoc, ← station]
        exact later

theorem tells_readPlace (counts : root.Counts name limit) (h : f.Sound root)
    (told : f.gifts.Tells name n) (read : f.readPlace s = .ok f') : f'.gifts.Tells name n := by
  unfold Frame.readPlace at read
  split at read
  · obtain ⟨resolved, done, same⟩ := bind_eq_ok.mp read
    cases same
    exact (tells_resolve counts h told done).1
  · dsimp only at read
    split at read <;> cases read

section

variable {word : String} {c : Char} {rest : List Char}

theorem mentions_end (free : f.literal = false) (shape : word.toList = ['-', '-']) :
    f.mentions name word = 0 := by
  simp [mentions, free, shape]

theorem mentions_long (free : f.literal = false)
    (shape : word.toList = '-' :: '-' :: c :: rest) : f.mentions name word =
      if String.ofList ((c :: rest).takeWhile (· != '=')) = name then 1 else 0 := by
  simp only [mentions, free, shape, Bool.false_eq_true, if_false]

theorem mentions_shorts (free : f.literal = false) (single : c ≠ '-')
    (shape : word.toList = '-' :: c :: rest) :
    f.mentions name word = f.mentionsAmong name (c :: rest) := by
  simp only [mentions, free, shape, Bool.false_eq_true, if_false]
  split
  case h_1 same | h_2 same => cases same; exact absurd rfl single
  case h_3 same => cases same; rfl
  case h_4 short => exact absurd rfl (short c rest)

theorem mentions_other (free : f.literal = false) (long : ∀ s, word.toList ≠ '-' :: '-' :: s)
    (short : ∀ c s, word.toList ≠ '-' :: c :: s) : f.mentions name word = 0 := by
  simp only [mentions, free, Bool.false_eq_true, if_false]
  split
  case h_1 | h_4 => rfl
  case h_2 shape => exact absurd shape (long _)
  case h_3 shape => exact absurd shape (short _ _)

end

/-- A word adds as many as it names. -/
theorem tells_readWord (counts : root.Counts name limit) (h : f.Sound root)
    (told : f.gifts.Tells name (min limit n)) (read : f.readWord s = .ok f') :
    f'.gifts.Tells name (min limit (n + f.mentions name s)) := by
  unfold Frame.readWord at read
  split at read
  case isTrue literal =>
    rw [Frame.mentions, if_pos literal]
    exact tells_readPlace counts h told read
  case isFalse free =>
    rw [Bool.not_eq_true] at free
    generalize shape : s.toList = letters at read
    split at read
    case h_1 =>
      rw [mentions_end free shape]
      cases read
      exact told
    case h_2 long more =>
      cases long with
      | nil => exact absurd rfl more
      | cons c rest =>
        rw [mentions_long free shape]
        dsimp only at read
        split at read <;> exact tells_readLong counts h told read
    case h_3 c rest _ single =>
      rw [mentions_shorts free (by rintro rfl; exact single rfl) shape]
      exact tells_readShorts counts h told read
    case h_4 _ long short =>
      rw [mentions_other free (fun _ same => long _ (shape.symm.trans same))
        (fun _ _ same => short _ _ (shape.symm.trans same))]
      split at read
      · cases read
        exact told
      · exact tells_readPlace counts h told read

theorem tells_standIns {environment : String → Option String} {rest : List Argument}
    (counts : root.Counts name limit) (declared : ∀ a ∈ rest, root.Declares a)
    (told : f.gifts.Tells name n) (stood : f.standIns environment rest = .ok f') :
    f'.gifts.Tells name n := by
  induction rest generalizing f with
  | nil =>
    cases stood
    exact told
  | cons a rest ih =>
    obtain ⟨own, others⟩ := List.forall_mem_cons.mp declared
    unfold Frame.standIns at stood
    split at stood
    case _ kind label s effect _ _ =>
      obtain ⟨v, _, stood⟩ := bind_eq_ok.mp stood
      exact ih others (tells_keep counts own (counts.apart own effect) told _ _) stood
    · exact ih others told stood

theorem tells_finish {environment : String → Option String} {isLast : Bool} {g : Gifts}
    (counts : root.Counts name limit) (h : f.Sound root) (told : f.gifts.Tells name n)
    (finished : f.finish environment isLast = .ok g) : g.Tells name n := by
  obtain ⟨resolved, done, finished⟩ := bind_eq_ok.mp finished
  obtain ⟨stood, filled, finished⟩ := bind_eq_ok.mp finished
  obtain ⟨told, _⟩ := tells_resolve counts h told done
  have told := tells_standIns counts (h.resolve done).declared told filled
  dsimp only at finished
  split at finished
  · split at finished <;> cases finished
  · split at finished
    · cases finished
    · split at finished <;> cases finished
      exact told

end Frame

/-! ## All commands -/

theorem firstPositive_cons (n : Nat) (rest : List Nat) :
    firstPositive (n :: rest) = if n = 0 then firstPositive rest else n := by
  cases n <;> simp [firstPositive]

def Frame.Tallies (root : Command) (name : String) (limit : Nat) (f : Frame) (n : Nat) : Prop :=
  f.Sound root ∧ f.gifts.Tells name (min limit n)

namespace Matches

variable {environment : String → Option String} {inner : Frame} {outer : List Frame} {m : Matches}
  {own : Nat} {others : List Nat}

theorem tells_of_refined {g all : Gifts} (counts : root.Counts name limit) (positive : 0 < limit)
    (told : g.Tells name (min limit n)) (h : List.Forall₂ (Frame.Tallies root name limit) outer others)
    (refined : outer.foldlM (fun g f => return (← f.finish environment false).refine g) g = .ok all) :
    all.Tells name (min limit (firstPositive (n :: others))) := by
  induction h generalizing g n with
  | nil =>
    cases refined
    rw [firstPositive_cons]
    cases n <;> exact told
  | @cons f k outer others first _ ih =>
    rw [List.foldlM_cons] at refined
    obtain ⟨next, step, refined⟩ := bind_eq_ok.mp refined
    obtain ⟨gifts, finished, same⟩ := bind_eq_ok.mp step
    cases same
    -- A command further out counts only where those inside it have nothing.
    have merged := (f.tells_finish counts first.1 first.2 finished).refine told
    rw [firstPositive_cons]
    cases n with
    | zero =>
      rw [if_pos rfl]
      exact ih (by simpa using merged) refined
    | succ n =>
      rw [if_neg (by omega)] at merged
      have whole := ih merged refined
      rwa [firstPositive_cons, if_neg (Nat.succ_ne_zero n)] at whole

theorem tells_of_readWords {words : List String} (counts : root.Counts name limit)
    (positive : 0 < limit) (h : inner.Tallies root name limit own)
    (h' : List.Forall₂ (Frame.Tallies root name limit) outer others)
    (read : readWords environment inner outer words = .ok m) :
    m.gifts.Tells name (min limit (firstPositive (mentionsBy name inner own others words))) := by
  -- The commands further out keep their own counts while the words go to the innermost.
  induction words generalizing inner outer own others with
  | nil =>
    obtain ⟨gifts, finished, read⟩ := bind_eq_ok.mp read
    obtain ⟨all, refined, same⟩ := bind_eq_ok.mp read
    cases same
    exact tells_of_refined counts positive (inner.tells_finish counts h.1 h.2 finished) h' refined
  | cons word rest ih =>
    have other (read : (do readWords environment (← inner.readWord word) outer rest) = .ok m)
        (plain : (if inner.takesSubcommand then
          Command.named? word inner.command.subcommands else none) = none) :
        m.gifts.Tells name
          (min limit (firstPositive (mentionsBy name inner own others (word :: rest)))) := by
      obtain ⟨next, done, read⟩ := bind_eq_ok.mp read
      rw [mentionsBy, plain]
      dsimp only
      rw [done]
      exact ih ⟨h.1.readWord done, inner.tells_readWord counts h.1 h.2 done⟩ h' read
    unfold readWords at read
    split at read
    case isTrue takes =>
      split at read
      case h_1 sub found =>
        rw [mentionsBy, if_pos takes, found]
        have begun : Frame.Tallies root name limit
            { toStation := .ofCommand inner.path inner.shared sub } 0 :=
          ⟨h.1.subcommand (List.mem_of_find?_eq_some found), by simpa using Gifts.Tells.nil name⟩
        exact ih begun (.cons h h') read
      case h_2 absent =>
        split at read
        · cases read
        · exact other read (by rw [if_pos takes, absent])
    case isFalse stays => exact other read (if_neg stays)

variable {words : List String}

theorem tells_of_ofWords (counts : root.Counts name limit) (positive : 0 < limit)
    (read : ofWords root environment words = .ok m) :
    m.gifts.Tells name (min limit (root.timesNamed name words)) :=
  tells_of_readWords counts positive ⟨.first root, by simpa using Gifts.Tells.nil name⟩ .nil read

theorem number?_of_ofWords (counts : root.Counts name limit) (positive : 0 < limit)
    (read : ofWords root environment words = .ok m) :
    m.number? name =
      if root.timesNamed name words = 0 then none else some (min limit (root.timesNamed name words)) := by
  rw [number?, (tells_of_ofWords counts positive read).find?]
  cases root.timesNamed name words with
  | zero => simp
  | succ n =>
    have some : min limit (n + 1) ≠ 0 := by omega
    simp [some]

theorem flag_of_ofWords (counts : root.Counts name limit) (positive : 0 < limit)
    (read : ofWords root environment words = .ok m) :
    m.flag name = decide (root.timesNamed name words ≠ 0) := by
  rw [flag, (tells_of_ofWords counts positive read).find?]
  cases root.timesNamed name words with
  | zero => simp
  | succ n =>
    have some : min limit (n + 1) ≠ 0 := by omega
    simp [some]

end Matches
end CaptureQueue.CommandLine
