/-! Blank characters of any script, and texts without blanks at their ends. -/

set_option autoImplicit false
namespace CaptureQueue.Text

def isBlank (c : Char) : Bool :=
  let n := c.toNat
  (9 ≤ n && n ≤ 13) || n == 0x20 || n == 0x85 || n == 0xA0 || n == 0x1680 ||
    (0x2000 ≤ n && n ≤ 0x200A) || n == 0x2028 || n == 0x2029 || n == 0x202F || n == 0x205F ||
    n == 0x3000

def trim (s : List Char) : List Char :=
  ((s.dropWhile isBlank).reverse.dropWhile isBlank).reverse

/-- Lower case for the letters of ASCII alone. -/
def lowerAscii (s : List Char) : List Char := s.map Char.toLower

end CaptureQueue.Text
