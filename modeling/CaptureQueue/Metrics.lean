import CaptureQueue.Decimal

/-! The counters of a capture, the single updates they go through, and what is told of them. -/

set_option autoImplicit false
namespace CaptureQueue

/-- Counters of 64 bits, which wrap. -/
structure Metrics where
  captured : UInt64 := 0
  filtered : UInt64 := 0
  enqueued : UInt64 := 0
  dropped : UInt64 := 0
  rejected : UInt64 := 0
  dequeued : UInt64 := 0
  bytes : UInt64 := 0
  highWater : UInt64 := 0
deriving DecidableEq, Repr

/-- One indivisible change of one counter. -/
inductive MetricUpdate where
  | captured
  | filtered
  | enqueued
  | dropped
  | rejected
  | dequeued
  | bytes (n : Nat)
  | occupancy (n : Nat)
deriving DecidableEq, Repr

namespace Metrics

def zero : Metrics := {}

def update (m : Metrics) : MetricUpdate → Metrics
  | .captured => { m with captured := m.captured + 1 }
  | .filtered => { m with filtered := m.filtered + 1 }
  | .enqueued => { m with enqueued := m.enqueued + 1 }
  | .dropped => { m with dropped := m.dropped + 1 }
  | .rejected => { m with rejected := m.rejected + 1 }
  | .dequeued => { m with dequeued := m.dequeued + 1 }
  | .bytes n => { m with bytes := m.bytes + UInt64.ofNat n }
  | .occupancy n => { m with highWater := max m.highWater (UInt64.ofNat n) }

def updateAll (m : Metrics) (us : List MetricUpdate) : Metrics := us.foldl update m

def capture (length : Nat) : List MetricUpdate := [.captured, .bytes length]

/-- Packets enqueued that have not left yet. -/
def inFlight (m : Metrics) : UInt64 :=
  let gone := m.dequeued + m.dropped + m.rejected
  if m.enqueued < gone then 0 else m.enqueued - gone

/-- Dropped packets in percent of the enqueued ones. -/
def dropRate (m : Metrics) : Float :=
  if m.enqueued = 0 then 0.0 else m.dropped.toFloat / m.enqueued.toFloat * 100.0

def packetsPerSecond (m : Metrics) (elapsed : Float) : Float :=
  if elapsed > 0.0 then m.captured.toFloat / elapsed else 0.0

def text (m : Metrics) : String :=
  s!"captured={m.captured.toNat} ({m.bytes.toNat} bytes) filtered={m.filtered.toNat} " ++
    s!"enqueued={m.enqueued.toNat} dropped={m.dropped.toNat} ({Decimal.fixed 2 m.dropRate}%) " ++
    s!"rejected={m.rejected.toNat} dequeued={m.dequeued.toNat} in_flight={m.inFlight.toNat} " ++
    s!"high_water={m.highWater.toNat}"

end Metrics
end CaptureQueue
