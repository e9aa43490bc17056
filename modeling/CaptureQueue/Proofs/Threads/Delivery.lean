import CaptureQueue.Proofs.Threads.SharedFeed
import Mathlib.Data.List.Nodup
import Mathlib.Logic.Function.Basic

/-! What becomes of the items in a feed that threads share. Each goes to one call, in the order of the
pushes, or is still pending. Only a call that finds the feed empty comes back with nothing, and nobody
sleeps beside an item with no notice to come. -/

set_option autoImplicit false
namespace CaptureQueue
namespace SharedFeed

variable {f f' : SharedFeed} {action : SharedFeedAction}

def optionsOf (f : SharedFeed) (call : Nat) : Option OpenOptions := do
  return (← f.streams[(← f.calls[call]?).stream]?).options

/-- What the thread of the given number has come to, if it has come so far. -/
def lookup {α β : Type} (g : α → Option β) (threads : List α) (index : Nat) : Option β :=
  threads[index]?.bind g

def result (f : SharedFeed) : Nat → Option Reading := lookup (·.fetch.result) f.calls

def broughtBy (f : SharedFeed) : Nat → Option (List FeedItem) := lookup Push.brought f.pushes

/-- All items that were brought, in the order in which the pushes had the lock. -/
def pushed (f : SharedFeed) : List FeedItem := f.brought.flatMap fun push => (f.broughtBy push).getD []

def Returned (f : SharedFeed) (call : Nat) (item : FeedItem) : Prop :=
  ∃ options reading, f.optionsOf call = some options ∧ f.result call = some reading ∧
    item.Brings options.snaplen reading

/-! ## What threads have come to -/

section
variable {α β : Type} {g : α → Option β} {threads : List α}

theorem lookup_append {a : α} (begun : g a = none) : lookup g (threads ++ [a]) = lookup g threads := by
  funext index
  simp only [lookup]
  rcases Nat.lt_trichotomy index threads.length with before | rfl | after
  · rw [List.getElem?_append_left before]
  · simp [begun]
  · have beyond : (threads ++ [a]).length ≤ index := by simpa using Nat.succ_le_of_lt after
    rw [List.getElem?_eq_none beyond, List.getElem?_eq_none (Nat.le_of_lt after)]

theorem lookup_map {change : α → α} (same : ∀ a, g (change a) = g a) :
    lookup g (threads.map change) = lookup g threads := by
  funext index
  simp only [lookup, List.getElem?_map]
  cases threads[index]? with
  | none => rfl
  | some a => exact same a

theorem lookup_set {index : Nat} {a a' : α} {b : Option β} (found : threads[index]? = some a)
    (now : g a' = b) : lookup g (threads.set index a') = Function.update (lookup g threads) index b := by
  obtain ⟨bound, _⟩ := List.getElem?_eq_some_iff.mp found
  funext other
  simp only [lookup]
  by_cases same : other = index
  · subst same
    simp [bound, now]
  · rw [List.getElem?_set_ne (Ne.symm same), Function.update_of_ne same]
    rfl

theorem lookup_set_same {index : Nat} {a a' : α} (found : threads[index]? = some a)
    (same : g a' = g a) : lookup g (threads.set index a') = lookup g threads := by
  have here : lookup g threads index = g a := by simp [lookup, found]
  rw [lookup_set found same, ← here, Function.update_eq_self]

end

inductive Effect (f f' : SharedFeed) : Prop where
  | quiet (feed : f'.feed.items = f.feed.items) (broughtBy : f'.broughtBy = f.broughtBy)
      (brought : f'.brought = f.brought) (result : f'.result = f.result) (taken : f'.taken = f.taken)
  | bring {push : Nat} {items : List FeedItem} (feed : f'.feed.items = f.feed.items ++ items)
      (fresh : f.broughtBy push = none)
      (broughtBy : f'.broughtBy = Function.update f.broughtBy push (some items))
      (brought : f'.brought = f.brought ++ [push]) (result : f'.result = f.result)
      (taken : f'.taken = f.taken)
  | take {call : Nat} {item : FeedItem} {options : OpenOptions} {reading : Reading}
      (oldest : f.feed.items = item :: f'.feed.items) (broughtBy : f'.broughtBy = f.broughtBy)
      (brought : f'.brought = f.brought) (fresh : f.result call = none)
      (result : f'.result = Function.update f.result call (some reading))
      (taken : f'.taken = f.taken ++ [call]) (options_eq : f.optionsOf call = some options)
      (brings : item.Brings options.snaplen reading)
  | giveUp {call : Nat} (empty : f.feed.items = []) (still : f'.feed.items = [])
      (broughtBy : f'.broughtBy = f.broughtBy) (brought : f'.brought = f.brought)
      (fresh : f.result call = none)
      (result : f'.result = Function.update f.result call (some .idle)) (taken : f'.taken = f.taken)

theorem effect_attend {index : Nat} {c : FetchCall} {s : MemoryStream} {feed : MemoryFeed}
    {fetch : Fetch} (found : f.calls[index]? = some c) (opened : f.streams[c.stream]? = some s)
    (waits : c.fetch.waits = true) (attended : Fetch.Attended s f.feed feed fetch) :
    Effect f { f with
      feed := feed
      calls := f.calls.set index { c with fetch := fetch }
      taken := f.taken ++ if fetch.brings then [index] else [] } := by
  have fresh : f.result index = none := by
    simp [result, lookup, found, Fetch.result_of_waits waits]
  have options : f.optionsOf index = some s.options := by
    simp [optionsOf, found, opened]
  cases attended with
  | @take item rest reading oldest brings =>
    have some : (Fetch.done reading).brings = true := by
      cases reading <;> first | rfl | exact absurd rfl brings.ne_idle
    exact .take oldest rfl rfl fresh (lookup_set found rfl) (by simp [some]) options brings
  | giveUp empty =>
    exact .giveUp empty empty rfl rfl fresh (lookup_set found rfl) (List.append_nil _)
  | lieDown empty deadline =>
    exact .quiet rfl rfl rfl (lookup_set_same found (Fetch.result_of_waits waits).symm)
      (List.append_nil _)

theorem Moved.effect (moved : f.Moved f') : Effect f f' := by
  cases moved with
  | push arriving => exact .quiet rfl (lookup_append arriving) rfl rfl rfl
  | @insert index p p' found inserted =>
    obtain ⟨before, after, _⟩ := Push.insert_eq_some inserted
    have fresh : f.broughtBy index = none := by simp [broughtBy, lookup, found, before]
    exact .bring rfl fresh (lookup_set found after) rfl rfl rfl
  | notify found given =>
    exact .quiet rfl (lookup_set_same found (Push.brought_of_notify given)) rfl
      (lookup_map FetchCall.notified_result) rfl
  | openOn items => exact .quiet items rfl rfl rfl rfl
  | close items => exact .quiet items rfl rfl rfl rfl
  | fetch => exact .quiet rfl rfl rfl (lookup_append rfl) rfl
  | attend found opened waits attended => exact effect_attend found opened waits attended
  | rouse found asleep waits =>
    exact .quiet rfl rfl rfl (lookup_set_same found
      ((Fetch.result_of_waits waits).trans (Fetch.result_of_sleeps asleep).symm)) rfl

/-! ## Calls and their streams -/

/-- Calls stay on their streams, which were opened before them, and streams keep their options. -/
structure Grows (f f' : SharedFeed) : Prop where
  calls : ∃ begun, f'.calls.map (·.stream) = f.calls.map (·.stream) ++ begun ∧
    ∀ stream ∈ begun, stream < f.streams.length
  streams : f.streams.map (·.options) <+: f'.streams.map (·.options)

theorem map_set_of_eq {α β : Type} (g : α → β) {as : List α} {index : Nat} {a a' : α}
    (found : as[index]? = some a) (same : g a' = g a) : (as.set index a').map g = as.map g := by
  obtain ⟨bound, rfl⟩ := List.getElem?_eq_some_iff.mp found
  rw [List.map_set, same, ← List.map_set, List.set_getElem_self]

theorem Grows.of_calls (calls : f'.calls.map (·.stream) = f.calls.map (·.stream))
    (streams : f'.streams = f.streams) : Grows f f' :=
  ⟨⟨[], by simp [calls], by simp⟩, by simp only [streams, List.prefix_refl]⟩

theorem Moved.grows (moved : f.Moved f') : Grows f f' := by
  cases moved with
  | push | insert => exact .of_calls rfl rfl
  | notify => exact .of_calls (List.map_map ..) rfl
  | openOn items opened => exact ⟨⟨[], by simp, by simp⟩, by simp⟩
  | close items found options =>
    refine ⟨⟨[], by simp, by simp⟩, ?_⟩
    simp only [map_set_of_eq MemoryStream.options found options, List.prefix_refl]
  | @fetch stream s found deadline =>
    refine ⟨⟨[stream], by simp, ?_⟩, List.prefix_refl _⟩
    intro other member
    rw [List.mem_singleton.mp member]
    exact (List.getElem?_eq_some_iff.mp found).1
  | attend found => exact .of_calls (map_set_of_eq _ found rfl) rfl
  | rouse found => exact .of_calls (map_set_of_eq _ found rfl) rfl

theorem optionsOf_eq_some_iff {call : Nat} {options : OpenOptions} :
    f.optionsOf call = some options ↔ ∃ stream, (f.calls.map (·.stream))[call]? = some stream ∧
      (f.streams.map (·.options))[stream]? = some options := by
  simp [optionsOf, Option.bind_eq_some_iff]

theorem Grows.optionsOf {call : Nat} {options : OpenOptions} (grows : Grows f f')
    (was : f.optionsOf call = some options) : f'.optionsOf call = some options := by
  obtain ⟨stream, called, kept⟩ := optionsOf_eq_some_iff.mp was
  obtain ⟨begun, calls, _⟩ := grows.calls
  refine optionsOf_eq_some_iff.mpr ⟨stream, ?_, ?_⟩
  · rw [calls, List.getElem?_append_left (List.getElem?_eq_some_iff.mp called).1]
    exact called
  · obtain ⟨later, streams⟩ := grows.streams
    rw [← streams, List.getElem?_append_left (List.getElem?_eq_some_iff.mp kept).1]
    exact kept

theorem Effect.result {call : Nat} {reading : Reading} (effect : Effect f f')
    (was : f.result call = some reading) : f'.result call = some reading := by
  have other {attended : Nat} (fresh : f.result attended = none) : call ≠ attended := by
    rintro rfl
    rw [fresh] at was
    cases was
  cases effect with
  | quiet _ _ _ same => rw [same, was]
  | bring _ _ _ _ same => rw [same, was]
  | take _ _ _ fresh result => rw [result, Function.update_of_ne (other fresh), was]
  | giveUp _ _ _ _ fresh result => rw [result, Function.update_of_ne (other fresh), was]

theorem Returned.moved {call : Nat} {item : FeedItem} (moved : f.Moved f')
    (returned : f.Returned call item) : f'.Returned call item := by
  obtain ⟨options, reading, kept, result, brings⟩ := returned
  exact ⟨options, reading, moved.grows.optionsOf kept, moved.effect.result result, brings⟩

/-! ## Each item goes to one call -/

/-- The ledger lists, once each, the threads that have come to something of the kind. -/
structure Registers {β : Type} (kind : β → Prop) (ledger : List Nat) (look : Nat → Option β) :
    Prop where
  once : ledger.Nodup
  mem_iff : ∀ index, index ∈ ledger ↔ ∃ b, look index = some b ∧ kind b

section
variable {β : Type} {kind : β → Prop} {ledger : List Nat} {look : Nat → Option β}
  {index : Nat} {b : β}

theorem Registers.not_mem (h : Registers kind ledger look) (fresh : look index = none) :
    index ∉ ledger := by
  intro member
  obtain ⟨b, was, _⟩ := (h.mem_iff index).mp member
  rw [fresh] at was
  cases was

theorem Registers.concat (h : Registers kind ledger look) (fresh : look index = none) (is : kind b) :
    Registers kind (ledger ++ [index]) (Function.update look index (some b)) where
  once := by
    rw [← List.concat_eq_append]
    exact List.Nodup.concat (h.not_mem fresh) h.once
  mem_iff := by
    intro other
    rw [List.mem_append, List.mem_singleton]
    by_cases same : other = index
    · subst same
      simp [is]
    · rw [Function.update_of_ne same, h.mem_iff other]
      simp [same]

theorem Registers.update (h : Registers kind ledger look) (fresh : look index = none)
    (other : ¬ kind b) :
    Registers kind ledger (Function.update look index (some b)) where
  once := h.once
  mem_iff := by
    intro thread
    by_cases same : thread = index
    · subst same
      simp [h.not_mem fresh, other]
    · rw [Function.update_of_ne same, h.mem_iff thread]

end

/-- The items that were pushed are those that calls came back with, one each and in their order, and
those that are left. -/
structure Delivered (f : SharedFeed) : Prop where
  account : ∃ items, items ++ f.feed.items = f.pushed ∧ List.Forall₂ f.Returned f.taken items
  brought : Registers (fun _ => True) f.brought f.broughtBy
  taken : Registers (· ≠ .idle) f.taken f.result

theorem pushed_of_same (broughtBy : f'.broughtBy = f.broughtBy) (brought : f'.brought = f.brought) :
    f'.pushed = f.pushed := by
  rw [pushed, broughtBy, brought]
  rfl

theorem Delivered.pushed_concat {push : Nat} {items : List FeedItem} (h : f.Delivered)
    (fresh : f.broughtBy push = none)
    (broughtBy : f'.broughtBy = Function.update f.broughtBy push (some items))
    (brought : f'.brought = f.brought ++ [push]) : f'.pushed = f.pushed ++ items := by
  have before : f.brought.flatMap (fun push => (f'.broughtBy push).getD []) = f.pushed := by
    refine List.flatMap_congr fun other member => ?_
    have differs : other ≠ push := fun same => h.brought.not_mem fresh (same ▸ member)
    rw [broughtBy, Function.update_of_ne differs]
  rw [pushed, brought, List.flatMap_append, before, List.flatMap_singleton, broughtBy,
    Function.update_self]
  rfl

theorem Delivered.moved (h : f.Delivered) (moved : f.Moved f') : f'.Delivered := by
  obtain ⟨items, conserved, returned⟩ := h.account
  have still := returned.imp fun _ _ => Returned.moved moved
  cases moved.effect with
  | quiet feed broughtBy brought result taken =>
    refine ⟨⟨items, ?_, taken ▸ still⟩, ?_, ?_⟩
    · rw [feed, pushed_of_same broughtBy brought, conserved]
    · rw [broughtBy, brought]
      exact h.brought
    · rw [result, taken]
      exact h.taken
  | @bring push new feed fresh broughtBy brought result taken =>
    refine ⟨⟨items, ?_, taken ▸ still⟩, ?_, ?_⟩
    · rw [feed, h.pushed_concat fresh broughtBy brought, ← conserved, List.append_assoc]
    · rw [broughtBy, brought]
      exact h.brought.concat fresh trivial
    · rw [result, taken]
      exact h.taken
  | @take call item options reading oldest broughtBy brought fresh result taken kept brings =>
    refine ⟨⟨items ++ [item], ?_, ?_⟩, ?_, ?_⟩
    · rw [pushed_of_same broughtBy brought, ← conserved, oldest, List.append_assoc,
        List.singleton_append]
    · have now : f'.result call = some reading := by rw [result, Function.update_self]
      rw [taken]
      exact List.rel_append still
        (.cons ⟨options, reading, moved.grows.optionsOf kept, now, brings⟩ .nil)
    · rw [broughtBy, brought]
      exact h.brought
    · rw [result, taken]
      exact h.taken.concat fresh brings.ne_idle
  | giveUp empty left broughtBy brought fresh result taken =>
    refine ⟨⟨items, ?_, taken ▸ still⟩, ?_, ?_⟩
    · rw [pushed_of_same broughtBy brought, left, ← conserved, empty]
    · rw [broughtBy, brought]
      exact h.brought
    · rw [result, taken]
      exact h.taken.update fresh (fun some => some rfl)

/-! ## Nobody sleeps beside an item -/

/-- Who sleeps beside an item has a notice to come, unless a sequence broke, after which none is
given. -/
def Watched (f : SharedFeed) : Prop :=
  (∃ c ∈ f.calls, c.fetch.sleeps = true) → f.feed.items ≠ [] →
    ∃ p ∈ f.pushes, p.notifies = true ∨ p.broke = true

theorem Watched.of_fewer (h : f.Watched)
    (sleepers : (∃ c ∈ f'.calls, c.fetch.sleeps = true) → ∃ c ∈ f.calls, c.fetch.sleeps = true)
    (items : f'.feed.items ≠ [] → f.feed.items ≠ []) (pushes : f.pushes ⊆ f'.pushes) :
    f'.Watched := by
  intro asleep some
  obtain ⟨p, member, which⟩ := h (sleepers asleep) (items some)
  exact ⟨p, pushes member, which⟩

theorem sleeper_of_set {calls : List FetchCall} {index : Nat} {c' : FetchCall}
    (awake : c'.fetch.sleeps = false) :
    (∃ c ∈ calls.set index c', c.fetch.sleeps = true) → ∃ c ∈ calls, c.fetch.sleeps = true := by
  rintro ⟨c, member, asleep⟩
  rcases List.mem_or_eq_of_mem_set member with member | rfl
  · exact ⟨c, member, asleep⟩
  · rw [awake] at asleep
    cases asleep

theorem Watched.moved (h : f.Watched) (moved : f.Moved f') : f'.Watched := by
  cases moved with
  | push => exact h.of_fewer id id (List.subset_append_left _ _)
  -- whoever sleeps, the push itself is to give the notice, or it broke
  | @insert index p p' found inserted =>
    have member := List.mem_set (List.getElem?_eq_some_iff.mp found).1 p'
    exact fun _ _ => ⟨p', member, (Push.insert_eq_some inserted).2.2⟩
  | notify =>
    rintro ⟨c, member, asleep⟩
    obtain ⟨before, _, rfl⟩ := List.mem_map.mp member
    rw [before.notified_sleeps] at asleep
    cases asleep
  | openOn items => exact h.of_fewer id (fun some => items ▸ some) (List.Subset.refl _)
  | close items => exact h.of_fewer id (fun some => items ▸ some) (List.Subset.refl _)
  | fetch found deadline =>
    refine h.of_fewer ?_ id (List.Subset.refl _)
    rintro ⟨c, member, asleep⟩
    rcases List.mem_append.mp member with member | new
    · exact ⟨c, member, asleep⟩
    · rw [List.mem_singleton.mp new] at asleep
      cases asleep
  | attend found opened waits attended =>
    cases attended with
    | take oldest =>
      refine h.of_fewer (sleeper_of_set rfl) (fun _ => ?_) (List.Subset.refl _)
      rw [oldest]
      exact List.cons_ne_nil _ _
    | giveUp empty | lieDown empty => exact fun _ some => absurd empty some
  | rouse found asleep waits =>
    exact h.of_fewer (sleeper_of_set (Fetch.sleeps_of_waits waits)) id (List.Subset.refl _)

/-! ## Runs -/

structure Consistent (f : SharedFeed) : Prop where
  delivered : f.Delivered
  watched : f.Watched
  opened : ∀ stream ∈ f.calls.map (·.stream), stream < f.streams.length

theorem Consistent.step (h : f.Consistent) (stepped : f.step action = some f') :
    f'.Consistent := by
  have moved := moved_of_step stepped
  refine ⟨h.delivered.moved moved, h.watched.moved moved, fun stream member => ?_⟩
  have longer : f.streams.length ≤ f'.streams.length := by
    simpa using moved.grows.streams.length_le
  obtain ⟨begun, calls, opened⟩ := moved.grows.calls
  rw [calls, List.mem_append] at member
  exact Nat.lt_of_lt_of_le (member.elim (h.opened stream) (opened stream)) longer

theorem Consistent.run {actions : List SharedFeedAction} (h : f.Consistent)
    (ran : f.run actions = some f') : f'.Consistent := by
  induction actions generalizing f with
  | nil =>
    cases ran
    exact h
  | cons action rest ih =>
    simp only [SharedFeed.run, List.foldlM_cons, bind, Option.bind_eq_some_iff] at ran
    obtain ⟨next, stepped, ran⟩ := ran
    exact ih (h.step stepped) ran

theorem consistent_start (latest : Nat) : Consistent { latest := latest } where
  delivered := {
    account := ⟨[], rfl, .nil⟩
    brought := ⟨List.nodup_nil, by simp [broughtBy, lookup]⟩
    taken := ⟨List.nodup_nil, by simp [result, lookup]⟩ }
  watched := by
    rintro ⟨c, member, _⟩
    cases member
  opened := by
    intro stream member
    cases member

theorem empty_of_idle {call : Nat} (stepped : f.step action = some f')
    (idle : f'.result call = some .idle) :
    f.result call = some .idle ∨ f.feed.items = [] ∧ f'.feed.items = [] := by
  cases (moved_of_step stepped).effect with
  | quiet _ _ _ result => exact .inl (by rw [← result, idle])
  | bring _ _ _ _ result => exact .inl (by rw [← result, idle])
  | @take attended _ _ reading _ _ _ _ result _ _ brings =>
    by_cases same : call = attended
    · subst same
      rw [result, Function.update_self] at idle
      exact absurd (Option.some.inj idle) brings.ne_idle
    · rw [result, Function.update_of_ne same] at idle
      exact .inl idle
  | giveUp empty still => exact .inr ⟨empty, still⟩

/-- A call that waits for the lock, and gets it beside an item, comes back with the oldest one. -/
theorem Consistent.takes_oldest (h : f.Consistent) {call : Nat} {c : FetchCall} {item : FeedItem}
    {rest : List FeedItem} (found : f.calls[call]? = some c) (waits : c.fetch.waits = true)
    (items : f.feed.items = item :: rest) :
    ∃ f', f.step (.attend call) = some f' ∧ f'.feed.items = rest ∧ f'.Returned call item := by
  have bound : c.stream < f.streams.length :=
    h.opened c.stream (List.mem_map_of_mem (List.mem_of_getElem? found))
  have opened : f.streams[c.stream]? = some f.streams[c.stream] := List.getElem?_eq_getElem bound
  let s := f.streams[c.stream]
  let fetch : Fetch := .done (item.reading s.options)
  have attended : c.fetch.step s f.feed = some ({ f.feed with items := rest }, fetch) :=
    Fetch.step_of_cons waits items
  have stepped : f.step (.attend call) = some { f with
      feed := { f.feed with items := rest }
      calls := f.calls.set call { c with fetch := fetch }
      taken := f.taken ++ if fetch.brings then [call] else [] } := by
    simp only [SharedFeed.step, found, opened, bind, Option.bind_some]
    rw [attended]
    rfl
  have options : f.optionsOf call = some s.options := by
    simp [optionsOf, found, opened, s]
  refine ⟨_, stepped, rfl, s.options, item.reading s.options, ?_, ?_, item.brings_reading _⟩
  · exact (moved_of_step stepped).grows.optionsOf options
  · rw [result, lookup_set found rfl]
    exact Function.update_self ..

/-- Whatever threads push and read, each item goes to exactly one call, in the order of the pushes,
cut or as a failure, unless it is still pending; a call comes back with nothing only when the feed is
empty, takes what it finds, and does not sleep beside an item that nobody will tell it of. -/
theorem delivered_once {latest : Nat} {actions : List SharedFeedAction}
    (ran : run { latest := latest } actions = some f) :
    (∃ items, items ++ f.feed.items = f.pushed ∧ List.Forall₂ f.Returned f.taken items) ∧
    (f.brought.Nodup ∧ ∀ push, push ∈ f.brought ↔ ∃ items, f.broughtBy push = some items) ∧
    (f.taken.Nodup ∧
      ∀ call, call ∈ f.taken ↔ ∃ reading, f.result call = some reading ∧ reading ≠ .idle) ∧
    (∀ (action : SharedFeedAction) (f' : SharedFeed) (call : Nat), f.step action = some f' →
      f'.result call = some .idle →
        f.result call = some .idle ∨ f.feed.items = [] ∧ f'.feed.items = []) ∧
    (∀ (call : Nat) (c : FetchCall) (item : FeedItem) (rest : List FeedItem),
      f.calls[call]? = some c → c.fetch.waits = true → f.feed.items = item :: rest →
        ∃ f', f.step (.attend call) = some f' ∧ f'.feed.items = rest ∧ f'.Returned call item) ∧
    ((∃ c ∈ f.calls, c.fetch.sleeps = true) → f.feed.items ≠ [] →
      ∃ p ∈ f.pushes, p.notifies = true ∨ p.broke = true) := by
  have h := (consistent_start latest).run ran
  have listed (push : Nat) : push ∈ f.brought ↔ ∃ items, f.broughtBy push = some items := by
    simpa using h.delivered.brought.mem_iff push
  exact ⟨h.delivered.account, ⟨h.delivered.brought.once, listed⟩,
    ⟨h.delivered.taken.once, h.delivered.taken.mem_iff⟩, fun action f' call => empty_of_idle,
    fun call c item rest => h.takes_oldest, h.watched⟩

/-- Two calls sleep, on streams that keep two bytes of a frame and all of it, when a frame comes. The
first runs out of time just then, before it is woken, and still takes the frame; the second is woken in
vain and sleeps on. A third, whose deadline the clock cannot tell, finds the feed empty and does not
sleep. Then come a failure, and a sequence that breaks after one frame and wakes nobody: the second call
wakes by itself and takes the failure. The frame is left for a fourth call, which waits for the lock. -/
theorem delivered_once_of_race :
    let id : InterfaceId := ⟨"eth0"⟩
    let host : MemoryHost := .ofNames ["eth0"]
    let actions : List SharedFeedAction := List.flatten [
      [.openOn host id { snaplen := 2 }, .openOn host id {},
        .openOn { host with openFailure := some "busy" } id {}, .openOn host id { readTimeout := 2000 }],
      [.fetch 0 0, .fetch 1 0, .attend 0, .attend 1, .fetch 2 0, .attend 2],
      [.push [.frame [1, 2, 3]] (.ok ()), .insert 0, .expire 0 100, .notify 0, .attend 0, .attend 1],
      [.push [.failure "link down"] (.ok ()), .push [.frame [4]] (.error (.ofText "no more")),
        .insert 1, .insert 2, .wake 1, .attend 1, .close 1, .fetch 0 200]]
    ∃ f, run { latest := 1000 } actions = some f ∧
      f.pushed = [.frame [1, 2, 3], .failure "link down", .frame [4]] ∧ f.taken = [0, 1] ∧
      [f.result 0, f.result 1, f.result 2] =
        [some (.frame [1, 2]), some (.failed (.sourceFailure "link down")), some .idle] ∧
      f.feed.items = [.frame [4]] ∧
      (∃ items, items ++ f.feed.items = f.pushed ∧ List.Forall₂ f.Returned f.taken items) ∧
      ∃ f', f.step (.attend 3) = some f' ∧ f'.feed.items = [] ∧ f'.Returned 3 (.frame [4]) := by
  intro id host actions
  obtain ⟨f, ran, now⟩ : ∃ f, run { latest := 1000 } actions = some f ∧
      (f.pushed, f.taken, [f.result 0, f.result 1, f.result 2], f.feed.items) =
        ([.frame [1, 2, 3], .failure "link down", .frame [4]], [0, 1],
          [some (.frame [1, 2]), some (.failed (.sourceFailure "link down")), some .idle],
          [.frame [4]]) := by
    rw [← Option.map_eq_some_iff]
    decide +kernel
  simp only [Prod.mk.injEq] at now
  obtain ⟨pushed, taken, results, left⟩ := now
  have fourth : (run { latest := 1000 } actions).bind (·.calls[3]?.map (·.fetch.waits)) =
      some true := by
    decide +kernel
  rw [ran] at fourth
  obtain ⟨c, found, waits⟩ := Option.map_eq_some_iff.mp fourth
  obtain ⟨account, _, _, _, takes, _⟩ := delivered_once ran
  exact ⟨f, ran, pushed, taken, results, left, account, takes 3 c (.frame [4]) [] found waits left⟩

end SharedFeed
end CaptureQueue
