import CaptureQueue.Datalink.Host
import CaptureQueue.Proofs.Session.Sequential

/-! What the reads of a backend make of what it is fed, said for the backend of memory and for that of
a real host alike: an item at the head of the feed comes out cut to the kept length or as a failure
of the source, and a read that brings nothing takes nothing. -/

set_option autoImplicit false
namespace CaptureQueue

variable {σ τ : Type}

namespace FeedItem

/-- One read that keeps a number of bytes of a frame: what it finds, brings and leaves. -/
inductive Delivers (kept : Nat) : List FeedItem → Reading → List FeedItem → Prop
  | idle (items : List FeedItem) : Delivers kept items .idle items
  | frame (data : Bytes) (rest : List FeedItem) :
    Delivers kept (.frame data :: rest) (.frame (data.take kept)) rest
  | failure (reason text : String) (rest : List FeedItem) :
    Delivers kept (.failure reason :: rest) (.failed (.sourceFailure text)) rest

def Alike : FeedItem → FeedItem → Prop
  | .frame data, .frame other => data = other
  | .failure _, .failure _ => True
  | _, _ => False

/-- Feeds alike bring the same frames up to a failure, in both or in none. -/
theorem frames_of_alike {items others : List FeedItem} (alike : List.Forall₂ Alike items others) :
    frames items = frames others ∧ items.any isFailure = others.any isFailure := by
  induction alike with
  | nil => exact ⟨rfl, rfl⟩
  | @cons item other items others same _ ih =>
    cases item with
    | frame data =>
      cases other with
      | frame other =>
        cases same
        exact ⟨congrArg (data :: ·) ih.1, ih.2⟩
      | failure reason => cases same
    | failure reason =>
      cases other with
      | frame data => cases same
      | failure other => exact ⟨rfl, rfl⟩

theorem unread_frames (fs : List Bytes) (rest : List FeedItem) :
    unread (fs.map .frame ++ rest) = unread rest := by
  induction fs with
  | nil => rfl
  | cons data fs ih => exact ih

theorem eq_nil_of_unread {items : List FeedItem} (all : unread items = items) : items = [] := by
  have shorter : ∀ items : List FeedItem, items ≠ [] → (unread items).length < items.length := by
    intro items
    induction items with
    | nil => exact fun some => absurd rfl some
    | cons item rest ih =>
      intro _
      cases item with
      | failure reason => exact Nat.lt_succ_self _
      | frame data =>
        cases rest with
        | nil => exact Nat.lt_succ_self _
        | cons next rest => exact Nat.lt_succ_of_lt (ih (List.cons_ne_nil _ _))
  by_contra some
  have less := shorter items some
  rw [all] at less
  exact Nat.lt_irrefl _ less

end FeedItem

/-- How a backend is fed: what is still to be read in a state of it, and which streams are open with
the given options. Only reads take from the feed, none of them forever in vain, and closing never
breaks. -/
structure Backend.Feeding (b : Backend σ τ) where
  left : σ → List FeedItem
  Open : OpenOptions → τ → Prop
  left_openOn : ∀ id options world, left (b.openOn id options world).value.2 = left world
  open_openOn : ∀ id options world stream,
    (b.openOn id options world).value.1 = .ok stream → Open options stream
  delivers : ∀ options stream world, Open options stream →
    FeedItem.Delivers options.snaplen (left world) (b.read stream world).value.1
      (left (b.read stream world).value.2)
  wanes : ∀ options stream world, Open options stream → left world ≠ [] →
    b.pending (b.read stream world).value.2 < b.pending world
  left_close : ∀ stream world, left (b.close stream world).value.2 = left world
  close_ok : ∀ stream world, (b.close stream world).value.1.2 = .ok ()

/-! ## Memory -/

namespace MemoryHost

theorem read_delivers (host : MemoryHost) (stream : MemoryStream) (feed : MemoryFeed) :
    FeedItem.Delivers stream.options.snaplen feed.items (host.backend.read stream feed).value.1
      (host.backend.read stream feed).value.2.items := by
  rcases items : feed.items with _ | ⟨data | reason, rest⟩
  · have read : (host.backend.read stream feed).value = (.idle, feed) := by
      simp [MemoryHost.backend, MemoryHost.read, MemoryFeed.pop, items, pure]
    rw [read, items]
    exact .idle []
  · have read : (host.backend.read stream feed).value =
        (.frame (data.take stream.options.snaplen), { feed with items := rest }) := by
      simp [MemoryHost.backend, MemoryHost.read, MemoryFeed.pop, items, pure, FeedItem.reading]
    rw [read]
    exact .frame data rest
  · have read : (host.backend.read stream feed).value =
        (.failed (.sourceFailure reason), { feed with items := rest }) := by
      simp [MemoryHost.backend, MemoryHost.read, MemoryFeed.pop, items, pure, FeedItem.reading]
    rw [read]
    exact .failure reason reason rest

def feeding (host : MemoryHost) : host.backend.Feeding where
  left := MemoryFeed.items
  Open := fun options stream => stream.options = options
  left_openOn := fun id options feed => (host.openOn_eq id options feed).1
  open_openOn := fun id options feed => (host.openOn_eq id options feed).2
  delivers := by
    rintro _ stream feed rfl
    exact host.read_delivers stream feed
  wanes := by
    intro _ stream feed _ some
    obtain ⟨item, rest, items⟩ := List.exists_cons_of_ne_nil some
    simp [MemoryHost.backend, MemoryHost.read, MemoryFeed.pop, items, pure]
  left_close := host.items_close
  close_ok := by
    rintro ⟨options, _ | _⟩ feed <;> rfl

end MemoryHost

/-! ## Real hosts -/

/-- What an event brings to a reader. Some errors only say that nothing came yet. -/
def ChannelEvent.item? : ChannelEvent → Option FeedItem
  | .frame data => some (.frame data)
  | .failure e =>
    match e.kind with
    | .timedOut | .wouldBlock | .interrupted => none
    | _ => some (.failure e.text)
  | .pause _ | .interrupt => none

namespace Datalink

theorem item?_failure (e : IoError) :
    (ChannelEvent.failure e).item? = if isIdle e then none else some (.failure e.text) := by
  obtain ⟨kind, text⟩ := e
  cases kind <;> rfl

theorem deliver_items (interrupts : Nat) (events : List ChannelEvent) :
    events.filterMap ChannelEvent.item? =
      (match (Host.deliver interrupts events).1 with
        | some (.ok data) => [.frame data]
        | some (.error e) => (ChannelEvent.failure e).item?.toList
        | none => []) ++
      (Host.deliver interrupts events).2.1.filterMap ChannelEvent.item? := by
  induction events generalizing interrupts with
  | nil => rfl
  | cons event rest ih =>
    cases event with
    | frame data => rfl
    | failure e =>
      simp only [Host.deliver, List.filterMap_cons]
      cases (ChannelEvent.failure e).item? <;> rfl
    | pause ms => exact ih interrupts
    | interrupt => exact ih (interrupts + 1)

theorem read_eq (kept : Nat) (interface : String) (host : Host) :
    (backend.read { interface := interface, snaplen := kept } host).value =
      (match (Host.deliver host.interrupts host.events).1.getD (.error (.ofKind .timedOut)) with
        | .ok data => .frame (data.take kept)
        | .error e => if isIdle e then .idle else readFailure (interface ++ ": " ++ e.text),
      { host with
        events := (Host.deliver host.interrupts host.events).2.1
        interrupts := (Host.deliver host.interrupts host.events).2.2 }) := by
  simp only [backend, read, Act.value_bind, Host.receive, Bool.not_true, Bool.false_eq_true, if_false,
    pure]
  cases (Host.deliver host.interrupts host.events).1.getD (.error (.ofKind .timedOut)) with
  | ok data =>
    simp only [Bytes.before_min]
    rfl
  | error e => cases idle : isIdle e <;> simp [idle] <;> rfl

theorem read_delivers (kept : Nat) (interface : String) (host : Host) :
    FeedItem.Delivers kept (host.events.filterMap ChannelEvent.item?)
      (backend.read { interface := interface, snaplen := kept } host).value.1
      ((backend.read { interface := interface, snaplen := kept } host).value.2.events.filterMap
        ChannelEvent.item?) := by
  have items := deliver_items host.interrupts host.events
  rw [read_eq]
  dsimp only
  rcases delivered : (Host.deliver host.interrupts host.events).1 with _ | (e | data)
  · rw [delivered] at items
    rw [items]
    exact .idle _
  · rw [delivered] at items
    rw [items]
    simp only [item?_failure, Option.getD_some]
    cases idle : isIdle e with
    | true => exact .idle _
    | false => exact .failure e.text _ _
  · rw [delivered] at items
    rw [items]
    exact .frame data _

theorem deliver_shortens (interrupts : Nat) (events : List ChannelEvent) (some : events ≠ []) :
    (Host.deliver interrupts events).2.1.length < events.length := by
  induction events generalizing interrupts with
  | nil => exact absurd rfl some
  | cons event rest ih =>
    have later (interrupts : Nat) : (Host.deliver interrupts rest).2.1.length < rest.length + 1 := by
      cases rest with
      | nil => exact Nat.zero_lt_one
      | cons next rest => exact Nat.lt_succ_of_lt (ih interrupts (List.cons_ne_nil _ _))
    cases event with
    | frame | failure => exact Nat.lt_succ_self _
    | pause ms => exact later interrupts
    | interrupt => exact later (interrupts + 1)

theorem listing_events (host : Host) : (Host.listing host).value.2.events = host.events := by
  unfold Host.listing
  split <;> rfl

theorem openOn_eq (id : InterfaceId) (options : OpenOptions) (host : Host) :
    (backend.openOn id options host).value.2.events = host.events ∧
      ∀ stream, (backend.openOn id options host).value.1 = .ok stream →
        stream.isOpen = true ∧ stream.snaplen = options.snaplen := by
  have listed := listing_events host
  simp only [backend, openOn, Act.within, Traced.within, Act.value_bind]
  generalize (Host.listing host).value = listing at listed ⊢
  obtain ⟨adapters, _, events, _, openError, otherChannels, _, _⟩ := listing
  cases adapters.find? (·.name == id.name) with
  | none => exact ⟨listed, fun stream opened => by cases opened⟩
  | some adapter =>
    cases openError with
    | some e => exact ⟨listed, fun stream opened => by cases opened⟩
    | none =>
      cases otherChannels with
      | true => exact ⟨listed, fun stream opened => by cases opened⟩
      | false =>
        refine ⟨listed, fun stream opened => ?_⟩
        cases opened
        exact ⟨rfl, rfl⟩

def feeding : backend.Feeding where
  left := fun host => host.events.filterMap ChannelEvent.item?
  Open := fun options stream => stream.isOpen = true ∧ stream.snaplen = options.snaplen
  left_openOn := fun id options host => by rw [(openOn_eq id options host).1]
  open_openOn := fun id options host => (openOn_eq id options host).2
  delivers := by
    rintro options ⟨interface, kept, _⟩ host ⟨rfl, rfl⟩
    exact read_delivers _ interface host
  wanes := by
    rintro options ⟨interface, kept, _⟩ host ⟨rfl, rfl⟩ some
    rw [read_eq]
    apply deliver_shortens
    rintro none
    simp [none] at some
  left_close := by
    rintro ⟨interface, kept, _ | _⟩ host <;> rfl
  close_ok := by
    rintro ⟨interface, kept, _ | _⟩ host <;> rfl

end Datalink
end CaptureQueue
