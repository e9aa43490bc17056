import CaptureQueue.Proofs.Session.Sequential
import Mathlib.Logic.Relation

/-! Threads that push items into the feed of a memory backend, and streams that read from it. What a
thread does while it holds the lock of the feed is one step; a call that finds nothing gives the lock
up in the same step in which it lies down. It is woken by a notice, which is given after the lock was
let go, or for no reason at all, or it runs out of time, and then waits for the lock again. -/

set_option autoImplicit false
namespace CaptureQueue

inductive PushStage where
  | arriving
  | notifying
  | done
deriving DecidableEq

/-- A push, whose items come in together: a frame, a failure, or the frames of a sequence. If that
breaks, they are the frames before the break, and nobody is notified of them. -/
structure Push where
  items : List FeedItem
  outcome : Except Fault Unit
  stage : PushStage := .arriving

/-- How far a call for the next item has come. Only a call with a deadline lies down; who was woken or
ran out of time waits for the lock. -/
inductive Fetch where
  | arriving (deadline : Option Nat)
  | asleep (deadline : Nat)
  | woken (deadline : Nat)
  | expired (deadline : Nat)
  | done (reading : Reading)

structure FetchCall where
  stream : Nat
  fetch : Fetch

/-- The clock can tell moments up to `latest`, in milliseconds. The pushes that have brought their items
and the calls that came back with something are listed in the order in which they had the lock; the
lists decide nothing. -/
structure SharedFeed where
  latest : Nat
  feed : MemoryFeed := {}
  streams : List MemoryStream := []
  pushes : List Push := []
  calls : List FetchCall := []
  brought : List Nat := []
  taken : List Nat := []

/-- To insert and to attend is to get the lock. A sleeper wakes whether it was notified or not, and runs
out of time by a clock that may show any moment. -/
inductive SharedFeedAction where
  | push (items : List FeedItem) (outcome : Except Fault Unit)
  | insert (index : Nat)
  | notify (index : Nat)
  | openOn (host : MemoryHost) (id : InterfaceId) (options : OpenOptions)
  | close (stream : Nat)
  | fetch (stream now : Nat)
  | attend (index : Nat)
  | wake (index : Nat)
  | expire (index now : Nat)

/-- When a call that begins now runs out of time; never, if the clock could not tell. -/
def MemoryStream.deadline (s : MemoryStream) (latest now : Nat) : Option Nat :=
  if now + s.options.readTimeout ≤ latest then some (now + s.options.readTimeout) else none

namespace Push

def insert (p : Push) : Option Push :=
  match p.stage, p.outcome with
  | .arriving, .ok () => some { p with stage := .notifying }
  | .arriving, .error _ => some { p with stage := .done }
  | _, _ => none

def notify (p : Push) : Option Push :=
  match p.stage with
  | .notifying => some { p with stage := .done }
  | _ => none

def brought (p : Push) : Option (List FeedItem) :=
  match p.stage with
  | .arriving => none
  | _ => some p.items

def notifies (p : Push) : Bool := p.stage = .notifying

def broke (p : Push) : Bool :=
  match p.stage, p.outcome with
  | .done, .error _ => true
  | _, _ => false

end Push

namespace Fetch

/-- Takes the oldest item if there is one, or lies down, or gives up if it has no deadline. -/
def look (s : MemoryStream) (feed : MemoryFeed) (deadline : Option Nat) : MemoryFeed × Fetch :=
  match (MemoryHost.read s feed).value with
  | (.idle, feed) => (feed, deadline.elim (.done .idle) .asleep)
  | (reading, feed) => (feed, .done reading)

/-- What a call does under the lock. One that was woken looks again, since another may have come
before it, and so does one that ran out of time, unless there is nothing. -/
def step (s : MemoryStream) (feed : MemoryFeed) : Fetch → Option (MemoryFeed × Fetch)
  | .arriving deadline => some (look s feed deadline)
  | .woken deadline => some (look s feed (some deadline))
  | .expired deadline =>
    some (if feed.items.isEmpty then (feed, .done .idle) else look s feed (some deadline))
  | _ => none

def wake : Fetch → Option Fetch
  | .asleep deadline => some (.woken deadline)
  | _ => none

def expire (now : Nat) : Fetch → Option Fetch
  | .asleep deadline => if deadline ≤ now then some (.expired deadline) else none
  | _ => none

def result : Fetch → Option Reading
  | .done reading => some reading
  | _ => none

def sleeps : Fetch → Bool
  | .asleep _ => true
  | _ => false

def waits : Fetch → Bool
  | .arriving _ | .woken _ | .expired _ => true
  | _ => false

def brings : Fetch → Bool
  | .done .idle => false
  | .done _ => true
  | _ => false

end Fetch

namespace FetchCall

def notified (c : FetchCall) : FetchCall := { c with fetch := c.fetch.wake.getD c.fetch }

end FetchCall

namespace SharedFeed

/-- Whether a call is under way on the stream. Nothing else can be done with it meanwhile. -/
def busy (f : SharedFeed) (stream : Nat) : Bool :=
  f.calls.any fun c => c.stream = stream && c.fetch.result.isNone

def step (f : SharedFeed) : SharedFeedAction → Option SharedFeed
  | .push items outcome => some { f with pushes := f.pushes ++ [⟨items, outcome, .arriving⟩] }
  | .insert index => do
    let p ← f.pushes[index]?
    return { f with
      feed := f.feed.push p.items
      pushes := f.pushes.set index (← p.insert)
      brought := f.brought ++ [index] }
  | .notify index => do
    let p ← f.pushes[index]?
    return { f with
      pushes := f.pushes.set index (← p.notify)
      calls := f.calls.map FetchCall.notified }
  | .openOn host id options =>
    let (opened, feed) := (host.openOn id options f.feed).value
    some { f with feed := feed, streams := f.streams ++ opened.toOption.toList }
  | .close stream => do
    let s ← f.streams[stream]?
    if f.busy stream then none
    else
      let ((s, _), feed) := (MemoryHost.close s f.feed).value
      return { f with feed := feed, streams := f.streams.set stream s }
  | .fetch stream now => do
    let s ← f.streams[stream]?
    if f.busy stream then none
    else return { f with calls := f.calls ++ [⟨stream, .arriving (s.deadline f.latest now)⟩] }
  | .attend index => do
    let c ← f.calls[index]?
    let (feed, fetch) ← c.fetch.step (← f.streams[c.stream]?) f.feed
    return { f with
      feed := feed
      calls := f.calls.set index { c with fetch := fetch }
      taken := f.taken ++ if fetch.brings then [index] else [] }
  | .wake index => do
    let c ← f.calls[index]?
    return { f with calls := f.calls.set index { c with fetch := ← c.fetch.wake } }
  | .expire index now => do
    let c ← f.calls[index]?
    return { f with calls := f.calls.set index { c with fetch := ← c.fetch.expire now } }

def run (f : SharedFeed) (actions : List SharedFeedAction) : Option SharedFeed :=
  actions.foldlM step f

end SharedFeed

/-! ## What is done under the lock -/

namespace FeedItem

/-- What a stream that keeps a number of bytes of each frame makes of an item. -/
inductive Brings (kept : Nat) : FeedItem → Reading → Prop where
  | frame (data : Bytes) : Brings kept (.frame data) (.frame (data.take kept))
  | failure (reason : String) : Brings kept (.failure reason) (.failed (.sourceFailure reason))

theorem brings_reading (options : OpenOptions) (item : FeedItem) :
    item.Brings options.snaplen (item.reading options) := by
  cases item with
  | frame data => exact .frame data
  | failure reason => exact .failure reason

theorem Brings.ne_idle {kept : Nat} {item : FeedItem} {reading : Reading}
    (brings : item.Brings kept reading) : reading ≠ .idle := by
  rintro rfl
  cases brings

end FeedItem

namespace MemoryHost

theorem read_of_nil (s : MemoryStream) {feed : MemoryFeed} (empty : feed.items = []) :
    (read s feed).value = (.idle, feed) := by
  simp only [read, MemoryFeed.pop, empty]
  rfl

theorem read_of_cons (s : MemoryStream) {feed : MemoryFeed} {item : FeedItem} {rest : List FeedItem}
    (items : feed.items = item :: rest) :
    (read s feed).value = (item.reading s.options, { feed with items := rest }) := by
  simp only [read, MemoryFeed.pop, items]
  rfl

end MemoryHost

namespace Fetch

variable {s : MemoryStream} {feed feed' : MemoryFeed} {c c' : Fetch}

theorem look_of_nil (deadline : Option Nat) (empty : feed.items = []) :
    look s feed deadline = (feed, deadline.elim (.done .idle) .asleep) := by
  rw [look, MemoryHost.read_of_nil s empty]

theorem look_of_cons {item : FeedItem} {rest : List FeedItem} (deadline : Option Nat)
    (items : feed.items = item :: rest) :
    look s feed deadline = ({ feed with items := rest }, .done (item.reading s.options)) := by
  rw [look, MemoryHost.read_of_cons s items]
  cases item <;> rfl

inductive Attended (s : MemoryStream) (feed : MemoryFeed) : MemoryFeed → Fetch → Prop where
  | take {item : FeedItem} {rest : List FeedItem} {reading : Reading}
      (oldest : feed.items = item :: rest) (brings : item.Brings s.options.snaplen reading) :
      Attended s feed { feed with items := rest } (.done reading)
  | giveUp (empty : feed.items = []) : Attended s feed feed (.done .idle)
  | lieDown (empty : feed.items = []) (deadline : Nat) : Attended s feed feed (.asleep deadline)

theorem attended_of_look {deadline : Option Nat} (looked : look s feed deadline = (feed', c')) :
    Attended s feed feed' c' := by
  cases items : feed.items with
  | nil =>
    rw [look_of_nil deadline items] at looked
    cases deadline with
    | none =>
      cases looked
      exact .giveUp items
    | some deadline =>
      cases looked
      exact .lieDown items deadline
  | cons item rest =>
    rw [look_of_cons deadline items] at looked
    cases looked
    exact .take items (item.brings_reading s.options)

theorem attended_of_step (stepped : c.step s feed = some (feed', c')) :
    c.waits = true ∧ Attended s feed feed' c' := by
  cases c with
  | arriving => exact ⟨rfl, attended_of_look (Option.some.inj stepped)⟩
  | woken => exact ⟨rfl, attended_of_look (Option.some.inj stepped)⟩
  | expired =>
    refine ⟨rfl, ?_⟩
    simp only [step, Option.some.injEq] at stepped
    split at stepped
    case isTrue empty =>
      cases stepped
      exact .giveUp (List.isEmpty_iff.mp empty)
    case isFalse => exact attended_of_look stepped
  | asleep | done => cases stepped

theorem step_of_cons {item : FeedItem} {rest : List FeedItem} (waits : c.waits = true)
    (items : feed.items = item :: rest) :
    c.step s feed = some ({ feed with items := rest }, .done (item.reading s.options)) := by
  cases c with
  | arriving deadline => exact congrArg some (look_of_cons deadline items)
  | woken deadline => exact congrArg some (look_of_cons (some deadline) items)
  | expired deadline =>
    simp only [step, items, List.isEmpty_cons, Bool.false_eq_true, if_false]
    rw [look_of_cons (some deadline) items]
  | asleep | done => cases waits

theorem result_of_waits (waits : c.waits = true) : c.result = none := by
  cases c <;> first | rfl | cases waits

theorem result_of_sleeps (asleep : c.sleeps = true) : c.result = none := by
  cases c <;> first | rfl | cases asleep

theorem sleeps_of_waits (waits : c.waits = true) : c.sleeps = false := by
  cases c <;> first | rfl | cases waits

theorem waits_of_wake (woken : c.wake = some c') : c.sleeps = true ∧ c'.waits = true := by
  cases c <;> cases woken
  exact ⟨rfl, rfl⟩

theorem waits_of_expire {now : Nat} (tired : c.expire now = some c') :
    c.sleeps = true ∧ c'.waits = true := by
  cases c with
  | asleep deadline =>
    simp only [expire] at tired
    split at tired <;> cases tired
    exact ⟨rfl, rfl⟩
  | arriving | woken | expired | done => cases tired

def Next (s : MemoryStream) (a b : MemoryFeed × Fetch) : Prop :=
  a.2.step s a.1 = some b ∨ a.1 = b.1 ∧ ∃ now, a.2.expire now = some b.2

/-- What a call comes to, if no other thread acts meanwhile: it waits in vain, if it waits at all. -/
theorem read_alone (s : MemoryStream) (feed : MemoryFeed) (deadline : Option Nat) :
    Relation.ReflTransGen (Next s) (feed, .arriving deadline)
      ((MemoryHost.read s feed).value.2, .done (MemoryHost.read s feed).value.1) := by
  cases items : feed.items with
  | cons item rest =>
    rw [MemoryHost.read_of_cons s items]
    exact .single (.inl (congrArg some (look_of_cons deadline items)))
  | nil =>
    rw [MemoryHost.read_of_nil s items]
    have looked : Next s (feed, .arriving deadline) (feed, deadline.elim (.done .idle) .asleep) :=
      .inl (congrArg some (look_of_nil deadline items))
    cases deadline with
    | none => exact .single looked
    | some deadline =>
      have tired : Next s (feed, .asleep deadline) (feed, .expired deadline) :=
        .inr ⟨rfl, deadline, if_pos (Nat.le_refl _)⟩
      have gaveUp : Next s (feed, .expired deadline) (feed, .done .idle) := by
        simp [Next, step, items]
      exact .head looked (.head tired (.single gaveUp))

end Fetch

namespace Push

variable {p p' : Push}

/-- A push that has brought its items has a notice to give, or its sequence broke. -/
theorem insert_eq_some (inserted : p.insert = some p') :
    p.brought = none ∧ p'.brought = some p.items ∧ (p'.notifies = true ∨ p'.broke = true) := by
  obtain ⟨items, outcome, stage⟩ := p
  cases stage with
  | arriving =>
    cases outcome with
    | ok =>
      cases inserted
      exact ⟨rfl, rfl, .inl rfl⟩
    | error fault =>
      cases inserted
      exact ⟨rfl, rfl, .inr rfl⟩
  | notifying | done => cases inserted

theorem brought_of_notify (given : p.notify = some p') : p'.brought = p.brought := by
  obtain ⟨items, outcome, stage⟩ := p
  cases stage <;> cases given
  rfl

end Push

/-! ## What a step does -/

namespace FetchCall

theorem notified_result (c : FetchCall) : c.notified.fetch.result = c.fetch.result := by
  obtain ⟨stream, fetch⟩ := c
  cases fetch <;> rfl

theorem notified_sleeps (c : FetchCall) : c.notified.fetch.sleeps = false := by
  obtain ⟨stream, fetch⟩ := c
  cases fetch <;> rfl

end FetchCall

namespace SharedFeed

variable {f f' : SharedFeed} {action : SharedFeedAction}

inductive Moved (f : SharedFeed) : SharedFeed → Prop where
  | push {p : Push} (arriving : p.brought = none) : Moved f { f with pushes := f.pushes ++ [p] }
  | insert {index : Nat} {p p' : Push} (found : f.pushes[index]? = some p)
      (inserted : p.insert = some p') :
      Moved f { f with
        feed := f.feed.push p.items
        pushes := f.pushes.set index p'
        brought := f.brought ++ [index] }
  | notify {index : Nat} {p p' : Push} (found : f.pushes[index]? = some p)
      (given : p.notify = some p') :
      Moved f { f with
        pushes := f.pushes.set index p'
        calls := f.calls.map FetchCall.notified }
  | openOn {feed : MemoryFeed} (items : feed.items = f.feed.items) (opened : List MemoryStream) :
      Moved f { f with feed := feed, streams := f.streams ++ opened }
  | close {stream : Nat} {s s' : MemoryStream} {feed : MemoryFeed} (items : feed.items = f.feed.items)
      (found : f.streams[stream]? = some s) (options : s'.options = s.options) :
      Moved f { f with feed := feed, streams := f.streams.set stream s' }
  | fetch {stream : Nat} {s : MemoryStream} (found : f.streams[stream]? = some s)
      (deadline : Option Nat) :
      Moved f { f with calls := f.calls ++ [⟨stream, .arriving deadline⟩] }
  | attend {index : Nat} {c : FetchCall} {s : MemoryStream} {feed : MemoryFeed} {fetch : Fetch}
      (found : f.calls[index]? = some c) (opened : f.streams[c.stream]? = some s)
      (waits : c.fetch.waits = true) (attended : Fetch.Attended s f.feed feed fetch) :
      Moved f { f with
        feed := feed
        calls := f.calls.set index { c with fetch := fetch }
        taken := f.taken ++ if fetch.brings then [index] else [] }
  | rouse {index : Nat} {c : FetchCall} {fetch : Fetch} (found : f.calls[index]? = some c)
      (asleep : c.fetch.sleeps = true) (waits : fetch.waits = true) :
      Moved f { f with calls := f.calls.set index { c with fetch := fetch } }

theorem moved_of_step (stepped : f.step action = some f') : f.Moved f' := by
  cases action with
  | push items outcome =>
    cases stepped
    exact .push rfl
  | insert index =>
    simp only [step, bind, Option.bind_eq_some_iff] at stepped
    obtain ⟨p, found, p', inserted, same⟩ := stepped
    cases same
    exact .insert found inserted
  | notify index =>
    simp only [step, bind, Option.bind_eq_some_iff] at stepped
    obtain ⟨p, found, p', given, same⟩ := stepped
    cases same
    exact .notify found given
  | openOn host id options =>
    cases stepped
    exact .openOn (host.openOn_eq id options f.feed).1 _
  | close stream =>
    simp only [step, bind, Option.bind_eq_some_iff] at stepped
    obtain ⟨s, found, stepped⟩ := stepped
    split at stepped <;> cases stepped
    refine .close (MemoryHost.items_close {} s f.feed) found ?_
    obtain ⟨options, closed⟩ := s
    cases closed <;> rfl
  | fetch stream now =>
    simp only [step, bind, Option.bind_eq_some_iff] at stepped
    obtain ⟨s, found, stepped⟩ := stepped
    split at stepped <;> cases stepped
    exact .fetch found _
  | attend index =>
    simp only [step, bind, Option.bind_eq_some_iff] at stepped
    obtain ⟨c, found, s, opened, ⟨feed, fetch⟩, stepped, same⟩ := stepped
    cases same
    obtain ⟨waits, attended⟩ := Fetch.attended_of_step stepped
    exact .attend found opened waits attended
  | wake index =>
    simp only [step, bind, Option.bind_eq_some_iff] at stepped
    obtain ⟨c, found, fetch, woken, same⟩ := stepped
    cases same
    obtain ⟨asleep, waits⟩ := Fetch.waits_of_wake woken
    exact .rouse found asleep waits
  | expire index now =>
    simp only [step, bind, Option.bind_eq_some_iff] at stepped
    obtain ⟨c, found, fetch, tired, same⟩ := stepped
    cases same
    obtain ⟨asleep, waits⟩ := Fetch.waits_of_expire tired
    exact .rouse found asleep waits

end SharedFeed
end CaptureQueue
