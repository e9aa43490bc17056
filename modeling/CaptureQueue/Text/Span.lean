/-! Parts of a text, and where they are in its lines. Places are counted from the end of the text,
so that whoever reads on knows them at any time. -/

set_option autoImplicit false
namespace CaptureQueue.Text

/-- What is between two places, each told by the number of characters that are left there. -/
structure Span where
  left : Nat
  leftAfter : Nat
deriving DecidableEq, Repr

namespace Span

def through (first last : Span) : Span := ⟨first.left, last.leftAfter⟩

def before (text : List Char) (s : Span) : List Char := text.take (text.length - s.left)

def content (text : List Char) (s : Span) : List Char :=
  (text.drop (text.length - s.left)).take (s.left - s.leftAfter)

def line (text : List Char) (s : Span) : Nat := (s.before text).count '\n'

def leading (text : List Char) (s : Span) : List Char :=
  ((s.before text).reverse.takeWhile (· ≠ '\n')).reverse

def wholeLine (text : List Char) (s : Span) : List Char :=
  s.leading text ++ (text.drop (text.length - s.left)).takeWhile (· ≠ '\n')

end Span
end CaptureQueue.Text
