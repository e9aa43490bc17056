import CaptureQueue.Address
import CaptureQueue.Text.Number
import CaptureQueue.Text.Reader

/-! The text of an address: dotted decimal, or hexadecimal groups with the longest run of zero
groups left out; and the reader, which also takes other spellings of the same address. -/

set_option autoImplicit false
namespace CaptureQueue

namespace Ipv4

def text (x : Ipv4) : String := s!"{x.a.toNat}.{x.b.toNat}.{x.c.toNat}.{x.d.toNat}"

end Ipv4

namespace Ipv6

def groupText (g : UInt16) : String := String.ofList (Nat.toDigits 16 g.toNat)

def joinGroups (gs : List UInt16) : String := ":".intercalate (gs.map groupText)

def zerosAhead (gs : List UInt16) : Nat := (gs.takeWhile (· == 0)).length

/-- Start and length of the longest run of zero groups, the first of several. -/
def longestZeros : Nat → List UInt16 → Nat × Nat
  | _, [] => (0, 0)
  | i, g :: gs =>
    let here := zerosAhead (g :: gs)
    let later := longestZeros (i + 1) gs
    if here ≠ 0 ∧ later.2 ≤ here then (i, here) else later

/-- An address that embeds one of the other family shows it in dotted decimal. -/
def mapped? (x : Ipv6) : Option Ipv4 :=
  if x.groups.take 6 = [0, 0, 0, 0, 0, 0xffff] then
    some (Ipv4.readAt (Bytes.ofWord x.g ++ Bytes.ofWord x.h) 0)
  else none

def text (x : Ipv6) : String :=
  match x.mapped? with
  | some quad => "::ffff:" ++ quad.text
  | none =>
    let (start, count) := longestZeros 0 x.groups
    if 1 < count then
      joinGroups (x.groups.take start) ++ "::" ++ joinGroups (x.groups.drop (start + count))
    else joinGroups x.groups

end Ipv6

namespace IpAddress

def text : IpAddress → String
  | .v4 x => x.text
  | .v6 x => x.text

open Text (Reader)

/-- A number of at most `most` digits; in decimal a leading zero stands alone. -/
def readNumber (radix most : Nat) (leadingZeros : Bool) : Reader Nat := fun s =>
  let digits := s.takeWhile (Text.isDigit radix)
  if digits.length = 0 ∨ most < digits.length then none
  else if !leadingZeros && s.head? == some '0' && 1 < digits.length then none
  else some (Text.valueOf radix digits, s.drop digits.length)

def readOctet : Reader UInt8 := do
  let n ← readNumber 10 3 false
  if n < 256 then return UInt8.ofNat n else failure

def after {α : Type} (separator : Char) (reader : Reader α) : Reader α := do
  Reader.char separator
  reader

def readV4 : Reader Ipv4 := do
  return {
    a := ← readOctet
    b := ← after '.' readOctet
    c := ← after '.' readOctet
    d := ← after '.' readOctet }

def readGroup : Reader UInt16 := return UInt16.ofNat (← readNumber 16 4 true)

/-- Up to `limit` groups parted by colons, the last two of which may be one dotted decimal
address; tells whether they were. -/
def readGroups (first : Bool) : Nat → List Char → List UInt16 × Bool × List Char
  | 0, s => ([], false, s)
  | limit + 1, s =>
    let step {α : Type} (reader : Reader α) : Reader α :=
      if first then reader else after ':' reader
    match (if limit = 0 then none else step readV4 s) with
    | some (quad, rest) => ([Bytes.word quad.a quad.b, Bytes.word quad.c quad.d], true, rest)
    | none =>
      match step readGroup s with
      | some (g, rest) =>
        let (gs, dotted, rest) := readGroups false limit rest
        (g :: gs, dotted, rest)
      | none => ([], false, s)

/-- Eight groups, or fewer around one double colon, which stands for at least one zero group. -/
def readV6 : Reader Ipv6 := fun s =>
  let (head, dotted, rest) := readGroups true 8 s
  if head.length = 8 then (Ipv6.ofGroups? head).map (·, rest)
  else if dotted then none
  else
    match rest with
    | ':' :: ':' :: rest =>
      let (tail, _, rest) := readGroups true (7 - head.length) rest
      let zeros := List.replicate (8 - head.length - tail.length) 0
      (Ipv6.ofGroups? (head ++ zeros ++ tail)).map (·, rest)
    | _ => none

def ofText? (s : String) : Option IpAddress :=
  (readV4.whole? s).map .v4 <|> (readV6.whole? s).map .v6

end IpAddress
end CaptureQueue
