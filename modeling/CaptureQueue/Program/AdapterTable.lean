import CaptureQueue.Json
import CaptureQueue.Program.Job
import CaptureQueue.Text.Style

/-! The list of adapters that the program prints, as a table or as JSON. -/

set_option autoImplicit false
namespace CaptureQueue.AdapterTable

def isDefault (adapters : List Adapter) (a : Adapter) : Bool :=
  (Adapter.pickDefault adapters).any (·.name == a.name)

/-- Adapters that are down are shown only if all are. -/
def shown (all : Bool) (adapters : List Adapter) : List Adapter :=
  adapters.filter fun a => all || a.isUp

def toJson (adapters : List Adapter) (a : Adapter) : Json :=
  .object [
    ("default", .bool (isDefault adapters a)),
    ("description", .string a.description),
    ("ips", .array (a.addresses.map fun address => .string address.text)),
    ("loopback", .bool a.isLoopback),
    ("mac", (a.mac.map fun mac => Json.string mac.text).getD .null),
    ("name", .string a.name),
    ("up", .bool a.isUp)]

def marker (colours : Bool) : String := Text.Style.boldGreen.apply colours "*"

def row (colours : Bool) (adapters : List Adapter) (a : Adapter) : String :=
  let marker := if isDefault adapters a then marker colours else " "
  let name := (if a.isUp then Text.Style.bold else .dimmed).applyPadded colours 16 a.name
  let mac := Text.padded 17 ((a.mac.map MacAddress.text).getD "-")
  let flags := (if a.isUp then [] else ["down"]) ++ (if a.isLoopback then ["loopback"] else [])
  marker ++ " " ++ name ++ " " ++ mac ++ " " ++ ", ".intercalate (a.addresses.map IpAddress.text) ++
    (if flags.isEmpty then "" else " [" ++ ", ".intercalate flags ++ "]")

def lines (colours all json : Bool) (adapters : List Adapter) : List String :=
  let listed := shown all adapters
  if json then [(Json.array (listed.map (toJson adapters))).pretty]
  else if listed.isEmpty then ["No interfaces found (platform: " ++ Datalink.platformName ++ ")"]
  else
    listed.map (row colours adapters) ++
      if (Adapter.pickDefault adapters).isSome then
        ["", marker colours ++ " default capture interface"]
      else []

def print (e : Surroundings) (all json : Bool) : Job Unit := do
  Job.printAll (lines e.colours all json (← Job.onHost Host.listing))

end CaptureQueue.AdapterTable
