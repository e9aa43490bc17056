import CaptureQueue.Backend

/-! A backend fed from memory. Frames and failures are put into one feed, and every stream of the
backend reads from it. -/

set_option autoImplicit false
namespace CaptureQueue

inductive FeedItem where
  | frame (data : Bytes)
  | failure (reason : String)
deriving DecidableEq, Repr

structure MemoryFeed where
  -- Items not read yet, oldest first.
  items : List FeedItem := []
  openings : List Opening := []
  closedCount : Nat := 0
deriving DecidableEq, Repr

namespace MemoryFeed

def push (f : MemoryFeed) (items : List FeedItem) : MemoryFeed :=
  { f with items := f.items ++ items }

def pop (f : MemoryFeed) : Option (FeedItem × MemoryFeed) :=
  match f.items with
  | [] => none
  | item :: rest => some (item, { f with items := rest })

end MemoryFeed

structure MemoryStream where
  options : OpenOptions
  closed : Bool := false
deriving DecidableEq, Repr

structure MemoryHost where
  interfaces : NameSet := .empty
  default : Option String := none
  denied : Bool := false
  openFailure : Option String := none
deriving DecidableEq, Repr

namespace MemoryHost

/-- Of the given names the first is the default. -/
def ofNames (names : List String) : MemoryHost :=
  { interfaces := .ofList names, default := names.head? }

end MemoryHost

namespace FeedItem

/-- What a stream with the given options makes of an item. -/
def reading (options : OpenOptions) : FeedItem → Reading
  | .frame data => .frame (data.take options.snaplen)
  | .failure reason => .failed (.sourceFailure reason)

end FeedItem

namespace MemoryHost

def openOn (h : MemoryHost) (id : InterfaceId) (options : OpenOptions) :
    Act MemoryFeed (Except CaptureError MemoryStream) := do
  modify fun f => { f with openings := f.openings ++ [⟨id, options⟩] }
  return match h.openFailure with
    | some reason => .error (.sourceFailure reason)
    | none => .ok { options := options }

def read (s : MemoryStream) : Act MemoryFeed Reading := fun f =>
  match f.pop with
  | some (item, f) => pure (item.reading s.options, f)
  | none => pure (.idle, f)

/-- A stream counts as closed once. -/
def close (s : MemoryStream) : Act MemoryFeed (MemoryStream × Except Fault Unit) := do
  if !s.closed then modify fun f => { f with closedCount := f.closedCount + 1 }
  return ({ s with closed := true }, .ok ())

def backend (h : MemoryHost) : Backend MemoryFeed MemoryStream where
  name := "memory"
  interfaces := pure (if h.denied
    then .error (.permissionDenied "interface enumeration requires elevated privileges")
    else .ok h.interfaces)
  defaultInterface := pure h.default
  openOn := h.openOn
  read := read
  pending := fun f => f.items.length
  close := close

end MemoryHost
end CaptureQueue
