import CaptureQueue.IoError.Errno

/-! Errors of input and output: a kind that programs decide by, and a text for people. -/

set_option autoImplicit false
namespace CaptureQueue

inductive IoErrorKind where
  | notFound
  | permissionDenied
  | timedOut
  | wouldBlock
  | interrupted
  | brokenPipe
  | unexpectedEof
  | invalidInput
  | other
deriving DecidableEq, Repr

namespace IoErrorKind

/-- The text of an error of which nothing but the kind is known. -/
def text : IoErrorKind → String
  | .notFound => "entity not found"
  | .permissionDenied => "permission denied"
  | .timedOut => "timed out"
  | .wouldBlock => "operation would block"
  | .interrupted => "operation interrupted"
  | .brokenPipe => "broken pipe"
  | .unexpectedEof => "unexpected end of file"
  | .invalidInput => "invalid input parameter"
  | .other => "other error"

def ofErrno (n : Int) : IoErrorKind :=
  if n = Errno.notPermitted ∨ n = Errno.accessDenied then .permissionDenied
  else if n = Errno.noSuchFile then .notFound
  else if n = Errno.timedOut then .timedOut
  else if n = Errno.tryAgain then .wouldBlock
  else if n = Errno.interrupted then .interrupted
  else if n = Errno.brokenPipe then .brokenPipe
  else if n = Errno.invalidArgument then .invalidInput
  else .other

end IoErrorKind

structure IoError where
  kind : IoErrorKind
  text : String
deriving DecidableEq, Repr

namespace IoError

def ofKind (kind : IoErrorKind) : IoError := ⟨kind, kind.text⟩

def ofErrno (n : Int) : IoError := ⟨.ofErrno n, s!"{Errno.text n} (os error {n})"⟩

end IoError
end CaptureQueue
