import CaptureQueue.Toml.DecodeError

/-! Decoding TOML values into values of a type, by the shapes that types have: numbers, texts,
records by key or in order, choices by name. -/

set_option autoImplicit false
namespace CaptureQueue.Toml.Decode

abbrev Decoder (α : Type) : Type := TomlValue → Except DecodeFailure α

def fail {α : Type} (cause : DecodeError) : Except DecodeFailure α := .error { cause := cause }

/-- What is found about a part counts for the whole, with the step to the part. -/
def within {α : Type} (step : TomlStep) (found : Except DecodeFailure α) :
    Except DecodeFailure α :=
  found.mapError fun f => { f with path := step :: f.path }

def wrongType {α : Type} (v : TomlValue) (expected : String) : Except DecodeFailure α :=
  fail (.invalidType (.ofToml v) expected)

def string (expected : String) : Decoder String
  | .string s => .ok s
  | v => wrongType v expected

def boolean : Decoder Bool
  | .boolean b => .ok b
  | v => wrongType v "a boolean"

/-- A number from zero to below a limit, of a type that errors name. -/
def natural (limit : Nat) (expected : String) : Decoder Nat
  | .integer n => if 0 ≤ n ∧ n < limit then .ok n.toNat else fail (.invalidValue n expected)
  | v => wrongType v expected

def word16 : Decoder UInt16 := fun v =>
  return UInt16.ofNat (← natural (Nat.pow 2 16) "u16" v)

def word64 : Decoder Nat := natural (Nat.pow 2 64) "u64"

def size : Decoder Nat := natural (Nat.pow 2 64) "usize"

/-- Items from a position on. -/
def itemsFrom {α : Type} (decode : Decoder α) :
    Nat → List TomlValue → Except DecodeFailure (List α)
  | _, [] => .ok []
  | index, v :: vs => do
    let a ← within (.item index) (decode v)
    return a :: (← itemsFrom decode (index + 1) vs)

def sequence {α : Type} (decode : Decoder α) : Decoder (List α)
  | .array vs | .headed vs => itemsFrom decode 0 vs
  | v => wrongType v "a sequence"

/-- Whether the fields of a record are given in their order and not by their names. -/
def isInOrder : TomlValue → Bool
  | .array _ | .headed _ => true
  | _ => false

-- Fields of a record with the values given for them, in the order of the document. A record in
-- order has its fields in their own order. A date counts as a table of which no key is known.
def fields (name : String) (known : List String) : Decoder (List (String × TomlValue))
  | .table members => .ok (members.filter (known.contains ·.1))
  | .datetime _ => .ok []
  | .array vs | .headed vs => .ok (known.zip vs)
  | v => wrongType v ("struct " ++ name)

/-- A record whose fields all have defaults: each field given changes the record. -/
def record {α : Type} (name : String) (known : List String)
    (setField : String → TomlValue → α → Except DecodeFailure α) (default : α) :
    Decoder α := fun v => do
  let step (key : String) : TomlStep :=
    if isInOrder v then .item (known.idxOf key) else .field key
  (← fields name known v).foldlM (fun a (key, v) => within (step key) (setField key v a)) default

/-- The one name in a value that chooses among several, with what is given under it, if anything
is. -/
def choice (known : List String) : Decoder (String × Option TomlValue)
  | .string s => if known.contains s then .ok (s, none) else fail (.unknownVariant s known)
  | .table [] => fail .noVariant
  | .table [(key, content)] =>
    if known.contains key then .ok (key, some content)
    else within (.key key) (fail (.unknownVariant key known))
  | .table _ => fail .severalVariants
  | _ => fail .notStringOrTable

/-- A choice that takes no content may be given an empty one. -/
def noContent : Decoder Unit
  | .table [] | .array [] | .headed [] => .ok ()
  | .table _ | .array _ => fail (.contentNotEmpty "table")
  | .headed _ => fail (.contentNotEmpty "array")
  | v => fail (.contentNotTable v.kind)

def nameOnly (known : List String) : Decoder String := fun v => do
  match ← choice known v with
  | (name, none) => return name
  | (name, some content) =>
    within (.choice name) (noContent content)
    return name

end CaptureQueue.Toml.Decode
