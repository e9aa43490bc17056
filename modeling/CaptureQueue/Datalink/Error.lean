import CaptureQueue.CaptureError
import CaptureQueue.IoError
import CaptureQueue.Text.Search

/-! What can go wrong with a channel to the link layer of a host. -/

set_option autoImplicit false
namespace CaptureQueue

inductive DatalinkError where
  | interfaceNotFound (name : String)
  | channelFailed (reason : String)
  | unsupportedChannel (name : String)
  | permissionDenied (reason : String)
  | readFailed (reason : String)
deriving DecidableEq, Repr

namespace DatalinkError

def message : DatalinkError → String
  | .interfaceNotFound name => "Interface not found: " ++ name
  | .channelFailed reason => "Channel creation failed: " ++ reason
  | .unsupportedChannel name => "Unsupported channel type on " ++ name
  | .permissionDenied reason => "Permission denied: " ++ reason
  | .readFailed reason => "Capture error: " ++ reason

/-- Whether a channel was refused for lack of privileges: its error says so by kind or in words. -/
def lacksPrivileges (e : IoError) : Bool :=
  e.kind = .permissionDenied || Text.holds "permission".toList e.text.toList ||
    Text.holds "Operation not permitted".toList e.text.toList

def ofOpening (interface : String) (e : IoError) : DatalinkError :=
  if lacksPrivileges e then
    .permissionDenied
      ("capturing on " ++ interface ++ " requires elevated privileges (" ++ e.text ++ ")")
  else .channelFailed (interface ++ ": " ++ e.text)

def toCaptureError : DatalinkError → CaptureError
  | .permissionDenied reason => .permissionDenied reason
  | e => .sourceFailure e.message

end DatalinkError
end CaptureQueue
