/-! Finding one text in another, and the pieces of a text that a character parts. -/

set_option autoImplicit false
namespace CaptureQueue.Text

def holds (part : List Char) : List Char → Bool
  | [] => part.isEmpty
  | c :: rest => part.isPrefixOf (c :: rest) || holds part rest

def pieces (separator : Char) (s : String) : List String :=
  (s.toList.splitOn separator).map String.ofList

end CaptureQueue.Text
