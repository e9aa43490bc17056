import CaptureQueue.Filter.Rule
import CaptureQueue.Json

/-! Rules as JSON: an object whose one key names the kind of the rule. -/

set_option autoImplicit false
namespace CaptureQueue

namespace Protocol

/-- A name, or an object with the name as its one key and nothing under it. -/
def ofJson? : Json → Option Protocol
  | .string s => ofName? s
  | .object [(s, .null)] => ofName? s
  | _ => none

end Protocol

namespace LengthRange

/-- A bound may be left out or null. -/
def boundOfJson? : Json → Option (Option Nat)
  | .null => some none
  | .integer n => if 0 ≤ n ∧ n < Int.pow 2 64 then some (some n.toNat) else none
  | _ => none

/-- The bounds by name, or in order. -/
def ofJson? : Json → Option LengthRange
  | .object members => do
    let min ← boundOfJson? ((Json.member? members "min").getD .null)
    let max ← boundOfJson? ((Json.member? members "max").getD .null)
    some ⟨min, max⟩
  | .array [] => some ⟨none, none⟩
  | .array [min] => (boundOfJson? min).map (⟨·, none⟩)
  | .array [min, max] => do
    let min ← boundOfJson? min
    let max ← boundOfJson? max
    some ⟨min, max⟩
  | _ => none

def toJson (r : LengthRange) : Json :=
  let bound (key : String) (b : Option Nat) := b.toList.map fun (n : Nat) => (key, Json.integer n)
  .object (bound "min" r.min ++ bound "max" r.max)

end LengthRange

namespace FilterRule

mutual

def ofJson? : Json → Option FilterRule
  | .object [(kind, body)] => ofMember? kind body
  | _ => none

def ofMember? (kind : String) : Json → Option FilterRule
  | .array items =>
    if kind == "all" then (ofItems? items).map .all
    else if kind == "any" then (ofItems? items).map .any
    else if kind == "length" then (LengthRange.ofJson? (.array items)).map .length
    else none
  | .object members =>
    if kind == "not" then (ofSole? members).map .not
    else if kind == "length" then (LengthRange.ofJson? (.object members)).map .length
    else if kind == "protocol" then (Protocol.ofJson? (.object members)).map .protocol
    else none
  | .string s =>
    if kind == "protocol" then (Protocol.ofName? s).map .protocol
    else if kind == "host" then (IpAddress.ofText? s).map .host
    else none
  | .integer n =>
    if kind == "port" ∧ 0 ≤ n ∧ n < Int.pow 2 16 then some (.port (UInt16.ofNat n.toNat)) else none
  | _ => none

def ofSole? : List (String × Json) → Option FilterRule
  | [(kind, body)] => ofMember? kind body
  | _ => none

def ofItems? : List Json → Option (List FilterRule)
  | [] => some []
  | v :: vs => do
    let rule ← ofJson? v
    let rules ← ofItems? vs
    some (rule :: rules)

end

mutual

def toJson : FilterRule → Json
  | .protocol p => .object [("protocol", .string p.name)]
  | .port n => .object [("port", .integer n.toNat)]
  | .host a => .object [("host", .string a.text)]
  | .length r => .object [("length", r.toJson)]
  | .all rules => .object [("all", .array (toJsons rules))]
  | .any rules => .object [("any", .array (toJsons rules))]
  | .not rule => .object [("not", toJson rule)]

def toJsons : List FilterRule → List Json
  | [] => []
  | rule :: rules => toJson rule :: toJsons rules

end

end FilterRule
end CaptureQueue
