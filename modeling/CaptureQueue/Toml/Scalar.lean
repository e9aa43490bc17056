import CaptureQueue.Text.Number
import CaptureQueue.Text.Reader

/-! Readers of TOML numbers, dates and times. -/

set_option autoImplicit false
namespace CaptureQueue.Toml

open Text (Reader isDigit valueOf)
open Text.Reader

/-! ## Numbers -/

def digitRun (radix : Nat) : Reader (List Char) := do
  let first ← run1 (isDigit radix)
  let rest ← many (do char '_'; run1 (isDigit radix))
  return first ++ rest.flatten

def sign : Reader Bool := do
  match ← optional (satisfy fun c => c = '+' || c = '-') with
  | some c => return c = '-'
  | none => return false

/-- Digits of which the first is no zero unless it stands alone. -/
def decimalDigits : Reader (List Char) := do
  if ← sees (char '0') then
    char '0'
    return ['0']
  else digitRun 10

def inRange (n : Int) : Reader Int := if -Int.pow 2 63 ≤ n ∧ n < Int.pow 2 63 then pure n else failure

def radixInteger (letter : Char) (radix : Nat) : Reader Int := do
  char '0'
  char letter
  inRange (valueOf radix (← digitRun radix))

/-- Only decimal integers have a sign. -/
def integer : Reader Int :=
  radixInteger 'x' 16 <|> radixInteger 'o' 8 <|> radixInteger 'b' 2 <|> do
    let negative ← sign
    let n : Int := valueOf 10 (← decimalDigits)
    inRange (if negative then -n else n)

/-- The number `digits * 10 ^ exponent`, rounded. -/
def scaled (digits : Nat) (exponent : Int) : Float :=
  let size : Int := exponent + (Nat.toDigits 10 digits).length
  if digits = 0 ∨ size < -400 then 0.0
  else if 400 < size then Float.ofBits 0x7FF0000000000000
  else Float.ofScientific digits (exponent < 0) exponent.natAbs

def exponent : Reader Int := do
  let _ ← satisfy fun c => c = 'e' || c = 'E'
  let negative ← sign
  let n : Int := valueOf 10 (← digitRun 10)
  return if negative then -n else n

def fraction : Reader (List Char) := do
  char '.'
  digitRun 10

def special : Reader Float :=
  (do word ['i', 'n', 'f']; return Float.ofBits 0x7FF0000000000000) <|>
  (do word ['n', 'a', 'n']; return Float.ofBits 0x7FF8000000000000)

/-- A number with a fraction or an exponent. One too large to be told is refused, but only if it is
positive. -/
def float : Reader Float := do
  let negative ← sign
  let signed (x : Float) : Float := if negative then -x else x
  (do return signed (← special)) <|> do
    let whole ← decimalDigits
    let part ← optional fraction
    let e ← optional exponent
    if part.isNone && e.isNone then failure
    let digits := whole ++ part.getD []
    let x := scaled (valueOf 10 digits) (e.getD 0 - (part.getD []).length)
    if x.isInf && !negative then failure
    return signed x

def boolean : Reader Bool :=
  (do word ['t', 'r', 'u', 'e']; return true) <|> (do word ['f', 'a', 'l', 's', 'e']; return false)

/-! ## Dates and times -/

def digits : Nat → Reader (List Char)
  | 0 => pure []
  | n + 1 => return (← satisfy (isDigit 10)) :: (← digits n)

def field (width low high : Nat) : Reader (List Char) := do
  let cs ← digits width
  let n := valueOf 10 cs
  if low ≤ n ∧ n ≤ high then return cs else failure

def isLeapYear (year : Nat) : Bool := year % 4 = 0 && (year % 100 ≠ 0 || year % 400 = 0)

def daysInMonth (year month : Nat) : Nat :=
  if month = 2 then (if isLeapYear year then 29 else 28)
  else if [4, 6, 9, 11].contains month then 30
  else 31

def date : Reader (List Char) := do
  let year ← digits 4
  char '-'
  let month ← field 2 1 12
  char '-'
  let day ← field 2 1 (daysInMonth (valueOf 10 year) (valueOf 10 month))
  return year ++ ['-'] ++ month ++ ['-'] ++ day

/-- A time of the day with its seconds; a leap second is let through. -/
def time : Reader (List Char) := do
  let hour ← field 2 0 23
  char ':'
  let minute ← field 2 0 59
  char ':'
  let second ← field 2 0 60
  let part ← optional (do char '.'; run1 (isDigit 10))
  return hour ++ [':'] ++ minute ++ [':'] ++ second ++ (part.map ('.' :: ·)).getD []

def offset : Reader (List Char) :=
  (do let c ← satisfy fun c => c = 'Z' || c = 'z'; return [c]) <|> do
    let c ← satisfy fun c => c = '+' || c = '-'
    let hour ← field 2 0 23
    char ':'
    let minute ← field 2 0 59
    return c :: hour ++ [':'] ++ minute

def datetime : Reader (List Char) :=
  (do
    let day ← date
    let rest ← optional do
      let c ← satisfy fun c => c = 'T' || c = 't' || c = ' '
      let clock ← time
      let zone ← optional offset
      return c :: clock ++ zone.getD []
    return day ++ rest.getD []) <|> time

end CaptureQueue.Toml
