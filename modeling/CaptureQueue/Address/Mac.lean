import CaptureQueue.Bytes
import CaptureQueue.Text.Number
import CaptureQueue.Text.Search

/-! Hardware addresses: six bytes in hexadecimal, parted by colons. -/

set_option autoImplicit false
namespace CaptureQueue

structure MacAddress where
  a : UInt8
  b : UInt8
  c : UInt8
  d : UInt8
  e : UInt8
  f : UInt8
deriving DecidableEq, Repr

namespace MacAddress

def bytes (x : MacAddress) : Bytes := [x.a, x.b, x.c, x.d, x.e, x.f]

def text (x : MacAddress) : String := ":".intercalate (x.bytes.map fun b => Bytes.hex [b])

def ofBytes? : Bytes → Option MacAddress
  | [a, b, c, d, e, f] => some ⟨a, b, c, d, e, f⟩
  | _ => none

def ofText? (s : String) : Option MacAddress := do
  let parts := Text.pieces ':' s
  let bytes ← parts.mapM fun part => Text.number? 16 256 part.toList
  ofBytes? (bytes.map UInt8.ofNat)

end MacAddress
end CaptureQueue
