import CaptureQueue.Address.Mac
import CaptureQueue.Address.Text

/-! Network interfaces as a host describes them, and the one to capture on by default. -/

set_option autoImplicit false
namespace CaptureQueue

structure Adapter where
  name : String
  description : String := ""
  mac : Option MacAddress := none
  addresses : List IpAddress := []
  -- Bit 0 says that it is up, bit 3 that it is the loopback of the host.
  flags : UInt32 := 0
deriving DecidableEq, Repr

namespace Adapter

def isUp (a : Adapter) : Bool := a.flags &&& 1 != 0

def isLoopback (a : Adapter) : Bool := a.flags &&& 8 != 0

def isDefaultCandidate (a : Adapter) : Bool := a.isUp && !a.isLoopback && !a.addresses.isEmpty

/-- The first candidate in the host's order. -/
def pickDefault (adapters : List Adapter) : Option Adapter := adapters.find? isDefaultCandidate

end Adapter
end CaptureQueue
