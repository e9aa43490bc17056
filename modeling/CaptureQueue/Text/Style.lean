/-! Text set off on a terminal by codes before and after it. -/

set_option autoImplicit false
namespace CaptureQueue.Text

def padded (width : Nat) (s : String) : String :=
  s ++ String.ofList (List.replicate (width - s.length) ' ')

/-- Codes that set text off; if there are several, the first is written first. -/
structure Style where
  codes : List Nat
deriving DecidableEq, Repr

namespace Style

def bold : Style := ⟨[1]⟩

def dimmed : Style := ⟨[2]⟩

def green : Style := ⟨[32]⟩

def yellow : Style := ⟨[33]⟩

def cyan : Style := ⟨[36]⟩

def white : Style := ⟨[37]⟩

def boldGreen : Style := ⟨[1, 32]⟩

def opening (s : Style) : String :=
  "\x1b[" ++ ";".intercalate (s.codes.map fun n => toString n) ++ "m"

def closing : String := "\x1b[0m"

/-- Text in which a style goes on after anything that would turn it off. -/
def keptUp (s : Style) (text : String) : String :=
  (closing ++ s.opening).intercalate (text.splitOn closing)

-- Text in a style with blanks after it up to a width, or without the style where colours are off.
-- The codes inside the style count for the width, those around it do not.
def applyPadded (s : Style) (colours : Bool) (width : Nat) (text : String) : String :=
  if colours then s.opening ++ padded width (s.keptUp text) ++ closing else padded width text

/-- Text in a style, or as it is where colours are off. -/
def apply (s : Style) (colours : Bool) (text : String) : String := s.applyPadded colours 0 text

end Style

end CaptureQueue.Text
