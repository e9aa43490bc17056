import CaptureQueue.Json
import CaptureQueue.Pipeline
import CaptureQueue.Text.Style

/-! A report of a running or finished capture, for people or as a line of JSON. -/

set_option autoImplicit false
namespace CaptureQueue.Report

def seconds (r : Report) : Float := r.elapsed.toFloat / 1000.0

def toJson (r : Report) : Json :=
  let count (n : UInt64) : Json := .integer n.toNat
  .object [
    ("packets_captured", count r.metrics.captured),
    ("packets_filtered", count r.metrics.filtered),
    ("packets_enqueued", count r.metrics.enqueued),
    ("packets_dropped", count r.metrics.dropped),
    ("packets_rejected", count r.metrics.rejected),
    ("packets_dequeued", count r.metrics.dequeued),
    ("bytes_captured", count r.metrics.bytes),
    ("high_water_mark", count r.metrics.highWater),
    ("elapsed_secs", .decimal r.seconds)]

def title (r : Report) : String := if r.last then "Final metrics" else "Metrics"

/-- Losses are set off from a capture without any. -/
def lossStyle (m : Metrics) : Text.Style := if 0 < m.dropped + m.rejected then .yellow else .green

def lines (colours : Bool) (r : Report) : List String :=
  let m := r.metrics
  let captured := Text.Style.bold.apply colours (toString m.captured.toNat)
  let rate := Decimal.fixed 1 (m.packetsPerSecond r.seconds)
  let share := Decimal.fixed 2 m.dropRate
  let losses := s!"dropped {m.dropped.toNat} ({share}%)  rejected {m.rejected.toNat}"
  [Text.Style.cyan.apply colours ("── " ++ r.title ++ " ──"),
    s!"  captured {captured} ({m.bytes.toNat} bytes, {rate} pkt/s)",
    s!"  filtered {m.filtered.toNat}  enqueued {m.enqueued.toNat}  dequeued {m.dequeued.toNat}",
    "  " ++ (lossStyle m).apply colours losses,
    s!"  in flight {m.inFlight.toNat}  high water {m.highWater.toNat}"]

def output (colours json : Bool) (r : Report) : List String :=
  if json then [r.toJson.compact] else r.lines colours

end CaptureQueue.Report
