import CaptureQueue.Decimal

/-! JSON values and their text, on one line or indented by two blanks a level. -/

set_option autoImplicit false
namespace CaptureQueue

inductive Json where
  | null
  | bool (b : Bool)
  | integer (n : Int)
  | decimal (x : Float)
  | string (s : String)
  | array (items : List Json)
  | object (members : List (String × Json))
deriving Inhabited

namespace Json

def quotedChar (c : Char) : String :=
  if c = '"' then "\\\""
  else if c = '\\' then "\\\\"
  else if c = '\n' then "\\n"
  else if c = '\r' then "\\r"
  else if c = '\t' then "\\t"
  else if c.toNat = 8 then "\\b"
  else if c.toNat = 12 then "\\f"
  else if c.toNat < 0x20 then
    let digits := Nat.toDigits 16 c.toNat
    "\\u" ++ String.ofList (List.replicate (4 - digits.length) '0' ++ digits)
  else c.toString

def quoted (s : String) : String := "\"" ++ String.join (s.toList.map quotedChar) ++ "\""

def enclose (opening closing : String) (items : List String) : String :=
  opening ++ ",".intercalate items ++ closing

mutual

def compact : Json → String
  | null => "null"
  | bool b => if b then "true" else "false"
  | integer n => toString n
  | decimal x => Decimal.shortest x
  | string s => quoted s
  | array items => enclose "[" "]" (compactItems items)
  | object members => enclose "\x7b" "\x7d" (compactMembers members)

def compactItems : List Json → List String
  | [] => []
  | v :: vs => compact v :: compactItems vs

def compactMembers : List (String × Json) → List String
  | [] => []
  | (k, v) :: ms => (quoted k ++ ":" ++ compact v) :: compactMembers ms

end

def indent (depth : Nat) : String := String.ofList (List.replicate (2 * depth) ' ')

def enclosePretty (depth : Nat) (opening closing : String) (items : List String) : String :=
  if items.isEmpty then opening ++ closing
  else
    let lines := items.map fun item => "\n" ++ indent (depth + 1) ++ item
    opening ++ ",".intercalate lines ++ "\n" ++ indent depth ++ closing

mutual

def prettyAt (depth : Nat) : Json → String
  | array items => enclosePretty depth "[" "]" (prettyItems (depth + 1) items)
  | object members => enclosePretty depth "\x7b" "\x7d" (prettyMembers (depth + 1) members)
  | null => "null"
  | bool b => if b then "true" else "false"
  | integer n => toString n
  | decimal x => Decimal.shortest x
  | string s => quoted s

def prettyItems (depth : Nat) : List Json → List String
  | [] => []
  | v :: vs => prettyAt depth v :: prettyItems depth vs

def prettyMembers (depth : Nat) : List (String × Json) → List String
  | [] => []
  | (k, v) :: ms => (quoted k ++ ": " ++ prettyAt depth v) :: prettyMembers depth ms

end

def pretty (v : Json) : String := prettyAt 0 v

def member? (members : List (String × Json)) (key : String) : Option Json :=
  (members.find? (·.1 == key)).map (·.2)

end Json
end CaptureQueue
