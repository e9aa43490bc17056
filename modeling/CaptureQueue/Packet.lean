import CaptureQueue.Frame.Summary

/-! A captured frame with its sequence number and the time of its capture. -/

set_option autoImplicit false
namespace CaptureQueue

structure Timestamp where
  seconds : Nat := 0
  nanos : Nat := 0
deriving DecidableEq, Repr

namespace Timestamp

def ofParts (seconds nanos : Nat) : Timestamp := ⟨seconds + nanos / Nat.pow 10 9, nanos % Nat.pow 10 9⟩

end Timestamp

structure Packet where
  sequence : Nat
  data : Bytes
  timestamp : Timestamp := {}
deriving DecidableEq, Repr

namespace Packet

def summary (p : Packet) : Summary := Summary.ofFrame p.data

def tags (p : Packet) : TagSet := p.summary.tags

end Packet
end CaptureQueue
