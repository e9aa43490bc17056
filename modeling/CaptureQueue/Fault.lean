/-! A fault: supplied code that gave no answer and said at most why. -/

set_option autoImplicit false
namespace CaptureQueue

structure Fault where
  reason : Option String
deriving DecidableEq, Repr

namespace Fault

def ofText (text : String) : Fault := ⟨some text⟩

def text (f : Fault) : String := f.reason.getD "unknown panic"

end Fault
end CaptureQueue
