/-! Decimal text of binary floating-point numbers, computed exactly: with a fixed number of places,
or with the fewest digits that read back as the same number. -/

set_option autoImplicit false
namespace CaptureQueue.Decimal

/-- The quotient rounded to the nearest integer, a half to the even neighbour. -/
def roundDiv (num den : Nat) : Nat :=
  let q := num / den
  let r := num % den
  if 2 * r < den ∨ (2 * r = den ∧ q % 2 = 0) then q else q + 1

/-- A finite number `mantissa * 2 ^ exponent` without its sign. `narrow` tells that the next number
below lies at half the distance of the next above. -/
structure Magnitude where
  mantissa : Nat
  exponent : Int
  narrow : Bool
deriving DecidableEq, Repr

namespace Magnitude

def ofBits (bits : Nat) : Magnitude :=
  let fraction := bits % Nat.pow 2 52
  let scale : Nat := bits / Nat.pow 2 52 % Nat.pow 2 11
  if scale = 0 then ⟨fraction, -1074, false⟩
  else ⟨Nat.pow 2 52 + fraction, (scale : Int) - 1075, fraction == 0 && decide (1 < scale)⟩

def ratio (n : Nat) (e : Int) : Nat × Nat := (n * Nat.pow 2 e.toNat, Nat.pow 2 (-e).toNat)

end Magnitude

/-- A point `places` digits before the end of a number. -/
def withPoint (n places : Nat) : String :=
  if places = 0 then toString n
  else
    let digits := Nat.toDigits 10 (n % Nat.pow 10 places)
    let padding := List.replicate (places - digits.length) '0'
    toString (n / Nat.pow 10 places) ++ "." ++ String.ofList (padding ++ digits)

def isNegative (x : Float) : Bool := x.toBits.toNat / Nat.pow 2 63 = 1

def signed (x : Float) (text : String) : String :=
  if x.isNaN then "NaN" else (if isNegative x then "-" else "") ++ text

def fixed (places : Nat) (x : Float) : String :=
  let m := Magnitude.ofBits x.toBits.toNat
  let (num, den) := Magnitude.ratio m.mantissa m.exponent
  signed x (if x.isInf then "inf" else withPoint (roundDiv (num * Nat.pow 10 places) den) places)

/-- The least `j`, if any below the fuel, for which `num * 10 ^ j` reaches `den`. -/
def leadingZeros (den : Nat) : Nat → Nat → Nat
  | 0, _ => 0
  | fuel + 1, num => if den ≤ num then 0 else leadingZeros den fuel (num * 10) + 1

/-- The exponent of ten of the first digit of a positive ratio. -/
def leadingExponent (num den : Nat) : Int :=
  if den ≤ num then ((Nat.toDigits 10 (num / den)).length : Int) - 1
  else -(leadingZeros den 400 num : Int)

/-- Whether `n * 10 ^ e` rounds to the number: the interval around it holds its ends if the
mantissa is even. -/
def roundsTo (m : Magnitude) (n : Nat) (e : Int) : Bool :=
  let (num, den) := (n * Nat.pow 10 e.toNat, Nat.pow 10 (-e).toNat)
  let step := if m.narrow then 1 else 2
  let (loNum, loDen) := Magnitude.ratio (4 * m.mantissa - step) (m.exponent - 2)
  let (hiNum, hiDen) := Magnitude.ratio (4 * m.mantissa + 2) (m.exponent - 2)
  let (below, above) := (loNum * den, hiNum * den)
  if m.mantissa % 2 = 0 then below ≤ num * loDen && num * hiDen ≤ above
  else below < num * loDen && num * hiDen < above

/-- Of the two neighbours with `count` digits, the nearer one that rounds to the number. -/
def neighbour? (m : Magnitude) (count : Nat) : Option (Nat × Int) :=
  let (num, den) := Magnitude.ratio m.mantissa m.exponent
  let e := leadingExponent num den - (count - 1 : Nat)
  let (scaledNum, scaledDen) := (num * Nat.pow 10 (-e).toNat, den * Nat.pow 10 e.toNat)
  let near := roundDiv scaledNum scaledDen
  let floor := scaledNum / scaledDen
  let far := if near = floor then floor + 1 else floor
  if roundsTo m near e then some (near, e) else if roundsTo m far e then some (far, e) else none

def withoutZeros : Nat → Nat × Int → Nat × Int
  | 0, x => x
  | fuel + 1, (n, e) => if n % 10 = 0 then withoutZeros fuel (n / 10, e + 1) else (n, e)

/-- The fewest digits that read back, never with an exponent and always with a point. -/
def shortest (x : Float) : String :=
  let m := Magnitude.ofBits x.toBits.toNat
  let text :=
    if m.mantissa = 0 then "0.0"
    else
      match ((List.range 17).map (· + 1)).findSome? (neighbour? m) with
      | some found =>
        let (n, e) := withoutZeros 17 found
        if 0 ≤ e then toString (n * Nat.pow 10 e.toNat) ++ ".0" else withPoint n (-e).toNat
      | none => "0.0"
  signed x (if x.isInf then "inf" else text)

end CaptureQueue.Decimal
