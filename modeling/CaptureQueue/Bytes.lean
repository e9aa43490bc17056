import CaptureQueue.Fault
import CaptureQueue.Text.Number

/-! Byte strings: big-endian words, reading at an offset, cutting and hexadecimal text. -/

set_option autoImplicit false
namespace CaptureQueue

abbrev Bytes := List UInt8

namespace Bytes

/-- The byte at an offset; zero past the end. -/
def byteAt (s : Bytes) (i : Nat) : UInt8 := s.getD i 0

def word (high low : UInt8) : UInt16 := high.toUInt16 * 256 + low.toUInt16

def wordAt (s : Bytes) (i : Nat) : UInt16 := word (s.byteAt i) (s.byteAt (i + 1))

def ofWord (w : UInt16) : Bytes := [(w / 256).toUInt8, w.toUInt8]

/-- The bytes before an offset. One past the end is a fault. -/
def before (s : Bytes) (n : Nat) : Except Fault Bytes :=
  if n ≤ s.length then .ok (s.take n)
  else .error (.ofText ("range end index " ++ toString n ++ " out of range for slice of length " ++
    toString s.length))

/-- The low sixteen bits of a number, most significant byte first. -/
def ofNat16 (n : Nat) : Bytes := ofWord (UInt16.ofNat n)

def hexDigit (n : Nat) : Char :=
  if n < 10 then Char.ofNat (48 + n) else Char.ofNat (87 + n)

def hex (s : Bytes) : String :=
  String.ofList (s.flatMap fun b => [hexDigit (b.toNat / 16), hexDigit (b.toNat % 16)])

def ofHex? : List Char → Option Bytes
  | [] => some []
  | [_] => none
  | a :: b :: rest => do
    let high ← Text.digitValue? 16 a
    let low ← Text.digitValue? 16 b
    return UInt8.ofNat (16 * high + low) :: (← ofHex? rest)

theorem before_min (s : Bytes) (n : Nat) : s.before (min s.length n) = .ok (s.take n) := by
  rw [before, if_pos (Nat.min_le_left _ _), Nat.min_comm, ← List.take_eq_take_min]

theorem word_ofWord (w : UInt16) : word (w / 256).toUInt8 w.toUInt8 = w := by
  apply UInt16.toNat_inj.mp
  have below := w.toNat_lt
  have base : (256 : UInt16).toNat = 256 := rfl
  simp only [word, UInt16.toNat_add, UInt16.toNat_mul, UInt8.toNat_toUInt16, UInt16.toNat_toUInt8,
    UInt16.toNat_div, base]
  omega

theorem byteAt_take {s : Bytes} {n i : Nat} (h : i < n) : byteAt (s.take n) i = byteAt s i := by
  simp [byteAt, List.getD, h]

theorem wordAt_take {s : Bytes} {n i : Nat} (h : i + 1 < n) :
    wordAt (s.take n) i = wordAt s i := by
  unfold wordAt
  rw [byteAt_take (by omega), byteAt_take h]

end Bytes
end CaptureQueue
