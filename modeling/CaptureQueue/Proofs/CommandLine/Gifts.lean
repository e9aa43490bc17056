import CaptureQueue.CommandLine.Matches
import CaptureQueue.Proofs.Outcome

/-! What the words of a command line can leave behind: values that arguments of the grammar have
given, each of its kind. -/

set_option autoImplicit false
namespace CaptureQueue.CommandLine

/-- The argument is one of the command or of a command below it. -/
inductive Command.Declares : Command → Argument → Prop
  | here {c : Command} {a : Argument} (own : a ∈ c.arguments) : c.Declares a
  | under {c sub : Command} {a : Argument} (member : sub ∈ c.subcommands)
    (declared : sub.Declares a) : c.Declares a

def Argument.Gives (a : Argument) (v : Value) : Prop :=
  match a.effect with
  | .value kind _ => ∃ s, a.read kind s = .ok v
  | .count => ∃ n, 0 < n ∧ n ≤ Argument.countLimit ∧ v = .number n
  | .flag => v = .number 1
  | .help | .version => False

/-- All was given by arguments of the grammar. -/
def Gifts.Sound (root : Command) (g : Gifts) : Prop :=
  ∀ entry ∈ g, ∃ a, root.Declares a ∧ a.name = entry.1 ∧ a.Gives entry.2.value

def Pending.argument? : Pending → Option Argument
  | .none => Option.none
  | .awaiting a | .supplied a _ => some a

structure Frame.Sound (root : Command) (f : Frame) : Prop where
  declared : ∀ a ∈ f.arguments, root.Declares a
  below : ∀ a, f.command.Declares a → root.Declares a
  gifts : f.gifts.Sound root
  pending : ∀ a, f.pending.argument? = some a → root.Declares a

variable {root : Command}

/-! ## Gifts -/

namespace Gifts

variable {g : Gifts} {name : String} {given : Given}

theorem mem_of_find? (found : g.find? name = some given) : (name, given) ∈ g := by
  obtain ⟨before, after, rfl, -⟩ := List.lookup_eq_some_iff.mp found
  simp

theorem Sound.nil : Sound root [] := by simp [Sound]

theorem Sound.drop (h : g.Sound root) (name : String) : (g.drop name).Sound root :=
  fun entry member => h entry (List.mem_filter.mp member).1

theorem Sound.put {a : Argument} (h : g.Sound root) (declared : root.Declares a)
    (gives : a.Gives given.value) : (g.put a.name given).Sound root := by
  intro entry member
  rcases List.mem_append.mp member with kept | new
  · exact h.drop _ entry kept
  · cases List.mem_singleton.mp new
    exact ⟨a, declared, rfl, gives⟩

theorem Sound.refine {outer inner : Gifts} (h : outer.Sound root) (h' : inner.Sound root) :
    (outer.refine inner).Sound root := by
  unfold Gifts.refine
  induction inner generalizing outer with
  | nil => exact h
  | cons entry rest ih =>
    obtain ⟨name, given⟩ := entry
    refine ih ?_ fun e member => h' e (List.mem_cons_of_mem _ member)
    have put : (outer.put name given).Sound root := by
      obtain ⟨a, declared, rfl, gives⟩ := h' _ List.mem_cons_self
      exact h.put declared gives
    dsimp only
    split
    · split
      · exact put
      · exact h
    · exact put

end Gifts

/-! ## One command -/

namespace Frame

variable {f f' : Frame} {a : Argument} {s : String}

theorem mem_of_long? (found : f.long? s = some a) : a ∈ f.arguments :=
  (List.mem_filter.mp (List.mem_of_find?_eq_some found)).1

theorem mem_of_short? {c : Char} (found : f.short? c = some a) : a ∈ f.arguments :=
  (List.mem_filter.mp (List.mem_of_find?_eq_some found)).1

theorem mem_of_place? (found : f.place? = some a) : a ∈ f.arguments :=
  (List.mem_filter.mp (List.mem_of_getElem? found)).1

namespace Sound

theorem keep {v : Value} (h : f.Sound root) (source : Source) (declared : root.Declares a)
    (gives : a.Gives v) : (f.keep a source v).Sound root := by
  refine ⟨h.declared, h.below, ?_, h.pending⟩
  have kept : (if source = .words then a.replaces.foldl Gifts.drop f.gifts else f.gifts).Sound root := by
    split
    · exact List.foldlRecOn a.replaces Gifts.drop h.gifts fun g sound name _ => sound.drop name
    · exact h.gifts
  exact kept.put declared gives

theorem acceptText (h : f.Sound root) (declared : root.Declares a)
    (accepted : f.acceptText a s = .ok f') : f'.Sound root := by
  unfold Frame.acceptText at accepted
  obtain ⟨_, _, accepted⟩ := bind_eq_ok.mp accepted
  cases effect : a.effect with
  | value kind label =>
    rw [effect] at accepted
    obtain ⟨v, read, kept⟩ := bind_eq_ok.mp accepted
    cases kept
    refine h.keep _ declared ?_
    rw [Argument.Gives, effect]
    exact ⟨s, read⟩
  | flag | count | help | version =>
    rw [effect] at accepted
    cases accepted

theorem settle (h : f.Sound root) : Frame.Sound root { f with pending := .none } :=
  ⟨h.declared, h.below, h.gifts, fun _ awaited => by cases awaited⟩

theorem resolve (h : f.Sound root) (resolved : f.resolve = .ok f') : f'.Sound root := by
  unfold Frame.resolve at resolved
  cases pending : f.pending with
  | none =>
    rw [pending] at resolved
    cases resolved
    exact h.settle
  | awaiting a =>
    rw [pending] at resolved
    cases resolved
  | supplied a s =>
    rw [pending] at resolved
    exact h.settle.acceptText (h.pending a (by rw [pending]; rfl)) resolved

theorem count (h : f.Sound root) (declared : root.Declares a) (effect : a.effect = .count) (n : Nat) :
    (f.keep a .words (.number (min (n + 1) Argument.countLimit))).Sound root := by
  refine h.keep _ declared ?_
  rw [Argument.Gives, effect]
  exact ⟨_, Nat.lt_min.mpr ⟨Nat.succ_pos n, by decide⟩, Nat.min_le_right _ _, rfl⟩

theorem note (h : f.Sound root) (declared : root.Declares a) (noted : f.note a = .ok f') :
    f'.Sound root := by
  unfold Frame.note at noted
  obtain ⟨resolved, done, noted⟩ := bind_eq_ok.mp noted
  have sound := h.resolve done
  cases effect : a.effect with
  | flag =>
    rw [effect] at noted
    obtain ⟨_, _, kept⟩ := bind_eq_ok.mp noted
    cases kept
    refine sound.keep _ declared ?_
    rw [Argument.Gives, effect]
  | count =>
    rw [effect] at noted
    cases noted
    exact sound.count declared effect _
  | value kind label =>
    rw [effect] at noted
    cases noted
    refine ⟨sound.declared, sound.below, sound.gifts, fun b awaited => ?_⟩
    cases awaited
    exact declared
  | help | version =>
    rw [effect] at noted
    cases noted

theorem attach (h : f.Sound root) (declared : root.Declares a) (attached : f.attach a s = .ok f') :
    f'.Sound root := by
  obtain ⟨resolved, done, accepted⟩ := bind_eq_ok.mp attached
  exact (h.resolve done).acceptText declared accepted

theorem readLong {value : Option String} (h : f.Sound root) (read : f.readLong s value = .ok f') :
    f'.Sound root := by
  unfold Frame.readLong at read
  cases found : f.long? s with
  | none =>
    rw [found] at read
    cases read
  | some a =>
    have declared := h.declared a (mem_of_long? found)
    rw [found] at read
    cases value with
    | none => exact h.note declared read
    | some text =>
      dsimp only at read
      split at read
      · exact h.attach declared read
      · cases read

theorem readShorts {letters : List Char} (h : f.Sound root) (read : f.readShorts letters = .ok f') :
    f'.Sound root := by
  induction letters generalizing f with
  | nil =>
    cases read
    exact h
  | cons c rest ih =>
    unfold Frame.readShorts at read
    cases found : f.short? c with
    | none =>
      rw [found] at read
      cases read
    | some a =>
      have declared := h.declared a (mem_of_short? found)
      rw [found] at read
      dsimp only at read
      split at read
      · split at read
        · exact h.note declared read
        · exact h.attach declared read
        · exact h.attach declared read
      · obtain ⟨noted, done, read⟩ := bind_eq_ok.mp read
        exact ih (h.note declared done) read

theorem readPlace (h : f.Sound root) (read : f.readPlace s = .ok f') : f'.Sound root := by
  unfold Frame.readPlace at read
  cases found : f.place? with
  | none =>
    rw [found] at read
    dsimp only at read
    split at read <;> cases read
  | some a =>
    rw [found] at read
    obtain ⟨resolved, done, same⟩ := bind_eq_ok.mp read
    cases same
    have sound := h.resolve done
    refine ⟨sound.declared, sound.below, sound.gifts, fun b awaited => ?_⟩
    cases awaited
    exact h.declared a (mem_of_place? found)

theorem readWord (h : f.Sound root) (read : f.readWord s = .ok f') : f'.Sound root := by
  unfold Frame.readWord at read
  split at read
  · exact h.readPlace read
  · split at read
    · cases read
      exact ⟨h.declared, h.below, h.gifts, h.pending⟩
    · dsimp only at read
      split at read <;> exact h.readLong read
    · exact h.readShorts read
    · split at read
      case _ a awaiting =>
        cases read
        refine ⟨h.declared, h.below, h.gifts, fun b supplied => h.pending b ?_⟩
        rw [awaiting]
        exact supplied
      · exact h.readPlace read

theorem standIns {environment : String → Option String} {rest : List Argument} (h : f.Sound root)
    (declared : ∀ a ∈ rest, root.Declares a) (stood : f.standIns environment rest = .ok f') :
    f'.Sound root := by
  induction rest generalizing f with
  | nil =>
    cases stood
    exact h
  | cons a rest ih =>
    obtain ⟨own, others⟩ := List.forall_mem_cons.mp declared
    unfold Frame.standIns at stood
    split at stood
    case _ kind label s effect _ _ =>
      obtain ⟨v, read, stood⟩ := bind_eq_ok.mp stood
      refine ih (h.keep _ own ?_) others stood
      rw [Argument.Gives, effect]
      exact ⟨s, read⟩
    · exact ih h others stood

theorem finish {environment : String → Option String} {isLast : Bool} {g : Gifts} (h : f.Sound root)
    (finished : f.finish environment isLast = .ok g) : g.Sound root := by
  obtain ⟨resolved, done, finished⟩ := bind_eq_ok.mp finished
  obtain ⟨stood, filled, finished⟩ := bind_eq_ok.mp finished
  have sound := (h.resolve done).standIns (h.resolve done).declared filled
  dsimp only at finished
  split at finished
  · split at finished <;> cases finished
  · split at finished
    · cases finished
    · split at finished <;> cases finished
      exact sound.gifts

/-- A subcommand begins with what its command can be given, and with nothing. -/
theorem subcommand {sub : Command} (h : f.Sound root) (member : sub ∈ f.command.subcommands) :
    Frame.Sound root { toStation := .ofCommand f.path f.shared sub } := by
  refine ⟨fun a declared => ?_, fun a declared => h.below a (.under member declared), .nil,
    fun a none => by cases none⟩
  rcases List.mem_append.mp declared with own | shared
  · exact h.below a (.under member (.here own))
  · exact h.declared a (List.mem_filter.mp shared).1

theorem first (root : Command) : Frame.Sound root { toStation := .ofCommand [] [] root } := by
  refine ⟨fun a own => ?_, fun a declared => declared, .nil, fun a none => by cases none⟩
  exact .here (by simpa [Station.ofCommand] using own)

end Sound
end Frame

/-! ## All commands -/

namespace Matches

variable {environment : String → Option String} {inner : Frame} {outer : List Frame} {m : Matches}

theorem sound_of_refined {g all : Gifts} (h : g.Sound root) (h' : ∀ f ∈ outer, f.Sound root)
    (refined : outer.foldlM (fun g f => return (← f.finish environment false).refine g) g = .ok all) :
    all.Sound root := by
  induction outer generalizing g with
  | nil =>
    cases refined
    exact h
  | cons f rest ih =>
    obtain ⟨first, others⟩ := List.forall_mem_cons.mp h'
    rw [List.foldlM_cons] at refined
    obtain ⟨next, step, refined⟩ := bind_eq_ok.mp refined
    obtain ⟨gifts, finished, same⟩ := bind_eq_ok.mp step
    cases same
    exact ih ((first.finish finished).refine h) others refined

theorem sound_of_finish (h : inner.Sound root) (h' : ∀ f ∈ outer, f.Sound root)
    (finished : finish environment inner outer = .ok m) : m.gifts.Sound root := by
  obtain ⟨gifts, own, finished⟩ := bind_eq_ok.mp finished
  obtain ⟨all, refined, same⟩ := bind_eq_ok.mp finished
  cases same
  exact sound_of_refined (h.finish own) h' refined

theorem sound_of_readWords {words : List String} (h : inner.Sound root) (h' : ∀ f ∈ outer, f.Sound root)
    (read : readWords environment inner outer words = .ok m) : m.gifts.Sound root := by
  induction words generalizing inner outer with
  | nil => exact sound_of_finish h h' read
  | cons word rest ih =>
    have other {f : Frame} {outer : List Frame} (h : f.Sound root) (h' : ∀ f ∈ outer, f.Sound root)
        (read : (do readWords environment (← f.readWord word) outer rest) = .ok m) :
        m.gifts.Sound root := by
      obtain ⟨next, done, read⟩ := bind_eq_ok.mp read
      exact ih (h.readWord done) h' read
    unfold readWords at read
    split at read
    · split at read
      case _ sub found =>
        exact ih (h.subcommand (List.mem_of_find?_eq_some found)) (List.forall_mem_cons.mpr ⟨h, h'⟩) read
      · split at read
        · cases read
        · exact other h h' read
    · exact other h h' read

/-- Whatever is read of a command line was given by arguments of its grammar. -/
theorem sound_of_ofWords {words : List String} (read : ofWords root environment words = .ok m) :
    m.gifts.Sound root :=
  sound_of_readWords (.first root) (by simp) read

end Matches
end CaptureQueue.CommandLine
