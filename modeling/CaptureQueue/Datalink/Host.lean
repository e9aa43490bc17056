import CaptureQueue.Backend
import CaptureQueue.Datalink.Adapter
import CaptureQueue.Datalink.Error

/-! The backend of a real host: channels to its link layer. A host is told by its adapters and by
what the reads of its channels are going to bring. -/

set_option autoImplicit false
namespace CaptureQueue

inductive ChannelEvent where
  | frame (data : Bytes)
  | failure (e : IoError)
  | pause (ms : Nat)
  | interrupt
deriving DecidableEq, Repr

structure Host where
  adapters : List Adapter := []
  events : List ChannelEvent := []
  -- After how many more listings no adapter is left, if ever.
  listingsLeft : Option Nat := none
  openError : Option IoError := none
  -- Whether its channels are not of the kind that carries Ethernet frames.
  otherChannels : Bool := false
  -- Channels asked for on listed interfaces, failed ones among them.
  openings : List Opening := []
  interrupts : Nat := 0
deriving DecidableEq, Repr

namespace Host

def listing : Act Host (List Adapter) := fun h =>
  match h.listingsLeft with
  | none => pure (h.adapters, h)
  | some 0 => pure ([], h)
  | some (n + 1) => pure (h.adapters, { h with listingsLeft := some n })

/-- The next frame or failure of the events, and those after it; pauses are waited out. -/
def deliver (interrupts : Nat) :
    List ChannelEvent → Option (Except IoError Bytes) × List ChannelEvent × Nat
  | [] => (none, [], interrupts)
  | .frame data :: rest => (some (.ok data), rest, interrupts)
  | .failure e :: rest => (some (.error e), rest, interrupts)
  | .pause _ :: rest => deliver interrupts rest
  | .interrupt :: rest => deliver (interrupts + 1) rest

/-- One read of a channel; it times out if nothing more is to come. -/
def receive : Act Host (Except IoError Bytes) := fun h =>
  let (delivered, events, interrupts) := deliver h.interrupts h.events
  pure (delivered.getD (.error (.ofKind .timedOut)),
    { h with events := events, interrupts := interrupts })

end Host

structure Channel where
  interface : String
  snaplen : Nat
  isOpen : Bool := true
deriving DecidableEq, Repr

namespace Datalink

def backendName : String := "pnet"

def platformName : String := "linux"

def record (level : Level) (message : String) (fields : List (String × String)) : LogRecord :=
  { level := level, origin := .datalink, message := message, fields := fields }

def opening (id : InterfaceId) (options : OpenOptions) : LogSpan where
  name := "open"
  origin := .datalink
  notes := [("interface", .text id.debugText), ("promiscuous", .truth options.promiscuous)]

def openOn (id : InterfaceId) (options : OpenOptions) : Act Host (Except CaptureError Channel) :=
    Act.within (opening id options) do
  match (← Host.listing).find? (·.name == id.name) with
  | none => return .error (DatalinkError.interfaceNotFound id.name).toCaptureError
  | some adapter =>
    modify fun h => { h with openings := h.openings ++ [⟨id, options⟩] }
    match (← get).openError with
    | some e => return .error (DatalinkError.ofOpening adapter.name e).toCaptureError
    | none =>
      if (← get).otherChannels then
        return .error (DatalinkError.unsupportedChannel adapter.name).toCaptureError
      Act.emit (record .info "Datalink channel open"
        [("interface", adapter.name), ("snaplen", toString options.snaplen)])
      return .ok { interface := adapter.name, snaplen := options.snaplen }

/-- Errors that only say that nothing came yet. -/
def isIdle (e : IoError) : Bool :=
  e.kind = .timedOut || e.kind = .wouldBlock || e.kind = .interrupted

def readFailure (reason : String) : Reading :=
  .failed (DatalinkError.readFailed reason).toCaptureError

def read (c : Channel) : Act Host Reading := do
  if !c.isOpen then return readFailure (c.interface ++ " is closed")
  match ← Host.receive with
  | .ok data =>
    match data.before (min data.length c.snaplen) with
    | .ok kept => return .frame kept
    | .error fault => return .broken fault
  | .error e =>
    if isIdle e then return .idle
    Act.emit (record .warn "Datalink read failed" [("interface", c.interface), ("error", e.text)])
    return readFailure (c.interface ++ ": " ++ e.text)

def close (c : Channel) : Act Host (Channel × Except Fault Unit) := do
  if c.isOpen then Act.emit (record .debug "Datalink channel closed" [("interface", c.interface)])
  return ({ c with isOpen := false }, .ok ())

def backend : Backend Host Channel where
  name := backendName
  interfaces := return .ok (.ofList ((← Host.listing).map (·.name)))
  defaultInterface := return (Adapter.pickDefault (← Host.listing)).map (·.name)
  openOn := openOn
  read := read
  pending := fun h => h.events.length
  close := close

end Datalink
end CaptureQueue
