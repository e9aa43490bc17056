import CaptureQueue.Text.Number
import CaptureQueue.Text.Reader

/-! Quoted TOML strings: basic ones with escapes and literal ones without, each on one line or,
between tripled quotes, on several. A line break is read as one line feed. -/

set_option autoImplicit false
namespace CaptureQueue.Toml

open Text (Reader isDigit valueOf)
open Text.Reader

def isSpace (c : Char) : Bool := c = ' ' || c = '\t'

/-- Characters that need no escape in any string or comment: no control but the tab. -/
def isPlain (c : Char) : Bool := c = '\t' || (0x20 ≤ c.toNat && c.toNat ≠ 0x7F)

def isBasicPlain (c : Char) : Bool := isPlain c && c ≠ '"' && c ≠ '\\'

def isLiteralPlain (c : Char) : Bool := isPlain c && c ≠ '\''

/-- Characters of a key that needs no quotes. -/
def isBareKey (c : Char) : Bool := c.isAlphanum || c = '_' || c = '-'

def spaces : Reader Unit := do
  let _ ← run isSpace

def lineBreak : Reader Unit := char '\n' <|> word ['\r', '\n']

def codePoint : (width : Nat) → List Char → Reader Char
  | 0, digits =>
    let n := valueOf 16 digits.reverse
    if n.isValidChar then pure (Char.ofNat n) else failure
  | width + 1, digits => do
    let d ← satisfy (isDigit 16)
    codePoint width (d :: digits)

def escape : Reader Char := do
  char '\\'
  let c ← satisfy fun _ => true
  if c = 'b' then return Char.ofNat 8
  else if c = 't' then return '\t'
  else if c = 'n' then return '\n'
  else if c = 'f' then return Char.ofNat 12
  else if c = 'r' then return '\r'
  else if c = '"' || c = '\\' then return c
  else if c = 'u' then codePoint 4 []
  else if c = 'U' then codePoint 8 []
  else failure

def basicContent : Reader (List Char) := run1 isBasicPlain <|> (return [← escape])

def basicString : Reader (List Char) := do
  char '"'
  let parts ← many basicContent
  char '"'
  return parts.flatten

def literalString : Reader (List Char) := do
  char '\''
  let cs ← run isLiteralPlain
  char '\''
  return cs

/-- A backslash at the end of a line takes the blanks and line breaks after it along. -/
def continuation : Reader (List Char) := do
  char '\\'
  spaces
  lineBreak
  let _ ← many (lineBreak <|> do let _ ← run1 isSpace)
  return []

def brokenLine : Reader (List Char) := do
  lineBreak
  return ['\n']

/-- One or two quotes that do not belong to the closing three. -/
def innerQuotes (quote : Char) : Reader (List Char) :=
  (do
    word [quote, quote]
    if ← sees (satisfy (· ≠ quote)) then return [quote, quote] else failure) <|> do
  char quote
  if ← sees (satisfy (· ≠ quote)) then return [quote] else failure

/-- Up to two quotes right before the closing three belong to the string. -/
def closingQuotes (quote : Char) : Reader (List Char) :=
  (do word [quote, quote, quote, quote, quote]; return [quote, quote]) <|>
  (do word [quote, quote, quote, quote]; return [quote]) <|>
  (do word [quote, quote, quote]; return [])

/-- A line break right after the opening quotes is no part of the string. -/
def multiLine (quote : Char) (content : Reader (List Char)) : Reader (List Char) := do
  word [quote, quote, quote]
  let _ ← optional lineBreak
  let parts ← many (content <|> innerQuotes quote)
  return parts.flatten ++ (← closingQuotes quote)

def multiLineBasic : Reader (List Char) :=
  multiLine '"' (run1 isBasicPlain <|> continuation <|> (return [← escape]) <|> brokenLine)

def multiLineLiteral : Reader (List Char) := multiLine '\'' (run1 isLiteralPlain <|> brokenLine)

def quotedString : Reader (List Char) :=
  multiLineBasic <|> basicString <|> multiLineLiteral <|> literalString

end CaptureQueue.Toml
