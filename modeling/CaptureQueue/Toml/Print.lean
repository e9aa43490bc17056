import CaptureQueue.Decimal
import CaptureQueue.Toml.Quoted
import CaptureQueue.Toml.Value

/-! The writer of TOML documents: a section for each table, each under a header with its full path.
Strings are written in the plainest of four forms that can hold them. -/

set_option autoImplicit false
namespace CaptureQueue.Toml

/-! ## Strings -/

/-- Length of the longest run of a character. -/
def longestRun (c : Char) : (current longest : Nat) → List Char → Nat
  | _, longest, [] => longest
  | current, longest, d :: rest =>
    if d = c then longestRun c (current + 1) (max longest (current + 1)) rest
    else longestRun c 0 longest rest

def needsEscape (c : Char) : Bool := c ≠ '\n' && !isPlain c

def escaped (c : Char) : List Char :=
  if c.toNat = 8 then ['\\', 'b']
  else if c = '\t' then ['\\', 't']
  else if c.toNat = 12 then ['\\', 'f']
  else if c = '\r' then ['\\', 'r']
  else if c = '\\' then ['\\', '\\']
  else if needsEscape c then
    let digits := (Nat.toDigits 16 c.toNat).map Char.toUpper
    ['\\', 'u'] ++ List.replicate (4 - digits.length) '0' ++ digits
  else [c]

def basicText (s : List Char) : List Char :=
  s.flatMap fun c => if c = '\n' then ['\\', 'n'] else if c = '"' then ['\\', '"'] else escaped c

/-- Between tripled quotes only the third quote in a row is escaped. -/
def multiLineText : (quotes : Nat) → List Char → List Char
  | _, [] => []
  | quotes, c :: rest =>
    if c = '"' then
      if quotes = 2 then ['\\', '"'] ++ multiLineText 0 rest
      else '"' :: multiLineText (quotes + 1) rest
    else (if c = '\n' then ['\n'] else escaped c) ++ multiLineText 0 rest

inductive StringForm where
  | basic
  | literal
  | multiLineBasic
  | multiLineLiteral
deriving DecidableEq, Repr

namespace StringForm

def of (s : List Char) : StringForm :=
  let escapes := s.any needsEscape
  let backslash := s.contains '\\'
  let broken := s.contains '\n'
  let double := longestRun '"' 0 0 s
  let single := longestRun '\'' 0 0 s
  if !escapes && !backslash && double = 0 && !broken then .basic
  else if !escapes && single = 0 && !broken then .literal
  else if !escapes && !backslash && double ≤ 2 then .multiLineBasic
  else if !escapes && single ≤ 2 then .multiLineLiteral
  else if broken then .multiLineBasic
  else .basic

/-- A line break after the opening quotes, if the string goes over several lines. -/
def write (s : List Char) : StringForm → List Char
  | .basic => ['"'] ++ basicText s ++ ['"']
  | .literal => ['\''] ++ s ++ ['\'']
  | .multiLineBasic =>
    ['"', '"', '"'] ++ (if s.contains '\n' then ['\n'] else []) ++ multiLineText 0 s ++
      ['"', '"', '"']
  | .multiLineLiteral =>
    ['\'', '\'', '\''] ++ (if s.contains '\n' then ['\n'] else []) ++ s ++ ['\'', '\'', '\'']

end StringForm

def stringText (s : String) : String := String.ofList ((StringForm.of s.toList).write s.toList)

/-! ## Values -/

def keyText (key : String) : String :=
  if !key.isEmpty && key.toList.all isBareKey then key else stringText key

mutual

def inlineText : TomlValue → String
  | .string s => stringText s
  | .integer n => toString n
  | .float x => Decimal.shortest x
  | .boolean b => toString b
  | .datetime text => text
  | .array items | .headed items => "[" ++ ", ".intercalate (inlineTexts items) ++ "]"
  | .table members => "\x7b " ++ ", ".intercalate (inlineMembers members) ++ " \x7d"

def inlineTexts : List TomlValue → List String
  | [] => []
  | v :: vs => inlineText v :: inlineTexts vs

def inlineMembers : List (String × TomlValue) → List String
  | [] => []
  | (key, v) :: rest => (keyText key ++ " = " ++ inlineText v) :: inlineMembers rest

end

/-! ## Sections -/

def isTable : TomlValue → Bool
  | .table _ => true
  | _ => false

/-- Whether a value has sections of its own instead of a line. -/
def hasSections : TomlValue → Bool
  | .table _ => true
  | .array items | .headed items => !items.isEmpty && items.all isTable
  | _ => false

def plainLines (members : List (String × TomlValue)) : List String :=
  (members.filter (!hasSections ·.2)).map fun (key, v) => keyText key ++ " = " ++ inlineText v

def pathText (path : List String) : String := ".".intercalate (path.map keyText)

-- A header with the lines under it. A table that only holds other tables needs no header.
def tableSection (path : List String) (members : List (String × TomlValue)) : List (List String) :=
  let lines := plainLines members
  if lines.isEmpty && !members.isEmpty then [] else [("[" ++ pathText path ++ "]") :: lines]

mutual

def sections (path : List String) : List (String × TomlValue) → List (List String)
  | [] => []
  | (key, .table members) :: rest =>
    tableSection (path ++ [key]) members ++ sections (path ++ [key]) members ++ sections path rest
  | (key, .array items) :: rest =>
    (if items.all isTable then headedSections (path ++ [key]) items else []) ++ sections path rest
  | (key, .headed items) :: rest =>
    (if items.all isTable then headedSections (path ++ [key]) items else []) ++ sections path rest
  | _ :: rest => sections path rest

def headedSections (path : List String) : List TomlValue → List (List String)
  | [] => []
  | .table members :: rest =>
    [("[[" ++ pathText path ++ "]]") :: plainLines members] ++ sections path members ++
      headedSections path rest
  | _ :: rest => headedSections path rest

end

def unlines (lines : List String) : String := String.join (lines.map (· ++ "\n"))

/-- The text of a document: its own lines, then its sections with blank lines between them. -/
def print (members : List (String × TomlValue)) : String :=
  unlines (plainLines members) ++ "\n".intercalate ((sections [] members).map unlines)

end CaptureQueue.Toml
