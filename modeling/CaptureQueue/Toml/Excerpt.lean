import CaptureQueue.Text.Span

/-! How the place of an error in a TOML document is shown: the line that it starts in, with marks
under the part that is wrong. -/

set_option autoImplicit false
namespace CaptureQueue.Toml

open Text (Span)

-- Marks under the part, of which there is at least one. A part over several lines is marked up to
-- the end of the first, and a mark stands for a byte.
def marks (text : List Char) (span : Span) : Nat :=
  let size (cs : List Char) : Nat := (String.ofList cs).utf8ByteSize
  max 1 (min (size (span.content text))
    (size (span.wholeLine text) - (span.leading text).length))

/-- Lines and columns count from one. -/
def excerpt (text : List Char) (span : Span) : String :=
  let column := (span.leading text).length
  let number := toString (span.line text + 1)
  let margin := "".pushn ' ' (number.length + 1) ++ "|"
  s!"TOML parse error at line {number}, column {column + 1}\n" ++
    margin ++ "\n" ++
    number ++ " | " ++ String.ofList (span.wholeLine text) ++ "\n" ++
    margin ++ "".pushn ' ' (column + 1) ++ "".pushn '^' (marks text span) ++ "\n"

end CaptureQueue.Toml
