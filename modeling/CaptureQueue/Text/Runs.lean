/-! Classes of characters told by runs of code points. -/

set_option autoImplicit false
namespace CaptureQueue.Text

/-- Whether the `n`th place lies in the class, if the lengths of runs outside and inside it follow
each other in turn. `inside` tells of the first run; what is past the last goes on in turn. -/
def inRuns (inside : Bool) : Nat → List Nat → Bool
  | _, [] => inside
  | n, run :: runs => if n < run then inside else inRuns (!inside) (n - run) runs

end CaptureQueue.Text
