import CaptureQueue.CommandLine.Outline
import CaptureQueue.CommandLine.UsageError
import CaptureQueue.Text.Number

/-! Taking the words of a command line apart by a grammar. A value is checked when the argument
after it is recognised, or at the end: of two faults the one that is noticed first is told. -/

set_option autoImplicit false
namespace CaptureQueue.CommandLine

inductive Source where
  | environment
  | words
deriving DecidableEq, Repr

inductive Value where
  | text (s : String)
  | number (n : Nat)
deriving DecidableEq, Repr

structure Given where
  source : Source
  value : Value
deriving DecidableEq, Repr

/-- What was given, by the names of the arguments. -/
abbrev Gifts : Type := List (String × Given)

namespace Gifts

def find? (g : Gifts) (name : String) : Option Given := g.lookup name

def drop (g : Gifts) (name : String) : Gifts := g.filter (·.1 != name)

def put (g : Gifts) (name : String) (given : Given) : Gifts := g.drop name ++ [(name, given)]

/-- What a subcommand was given goes before what its command was given, unless it comes from the
environment and the other from the command line. -/
def refine (outer inner : Gifts) : Gifts :=
  inner.foldl (fun g (name, given) =>
    match g.find? name with
    | some ⟨.words, _⟩ => if given.source = .words then g.put name given else g
    | _ => g.put name given) outer

end Gifts

inductive Pending where
  | none
  | awaiting (a : Argument)
  | supplied (a : Argument) (text : String)
deriving DecidableEq, Repr

/-- One command on the way to the last, and what has been read for it. -/
structure Frame extends Station where
  gifts : Gifts := []
  pending : Pending := .none
  literal : Bool := false
  placed : Nat := 0

namespace Argument

def countLimit : Nat := 255

def read (a : Argument) (kind : ValueKind) (s : String) : Except UsageError Value :=
  match kind with
  | .text => .ok (.text s)
  | .path => if s.isEmpty then .error (.valueMissing a.label) else .ok (.text s)
  | .oneOf names =>
    if names.contains s then .ok (.text s) else .error (.valueNotAllowed a.label s)
  | .number limit =>
    match Text.number? 10 limit s.toList with
    | some n => .ok (.number n)
    | none => .error (.valueNotNumber a.label s)

end Argument

namespace Frame

def long? (f : Frame) (name : String) : Option Argument := f.options.find? (·.name == name)

def short? (f : Frame) (c : Char) : Option Argument := f.options.find? (·.short == some c)

def place? (f : Frame) : Option Argument := f.places[f.placed]?

/-- Keeps a value and takes back what it replaces. -/
def keep (f : Frame) (a : Argument) (source : Source) (value : Value) : Frame :=
  let gifts := if source = .words then a.replaces.foldl Gifts.drop f.gifts else f.gifts
  { f with gifts := gifts.put a.name ⟨source, value⟩ }

/-- Refuses an argument that was given before. -/
def refuseRepeated (f : Frame) (a : Argument) : Except UsageError Unit :=
  if (f.gifts.find? a.name).isSome then .error (.conflict a.label a.label) else .ok ()

def acceptText (f : Frame) (a : Argument) (s : String) : Except UsageError Frame := do
  f.refuseRepeated a
  match a.effect with
  | .value kind _ => return f.keep a .words (← a.read kind s)
  | _ => .error (.valueSurplus a.label s)

def resolve (f : Frame) : Except UsageError Frame :=
  let done := { f with pending := .none }
  match f.pending with
  | .none => .ok done
  | .awaiting a => .error (.valueMissing a.label)
  | .supplied a s => done.acceptText a s

def note (f : Frame) (a : Argument) : Except UsageError Frame := do
  let f ← f.resolve
  match a.effect with
  | .help => .error (.helpAsked f.path)
  | .version => .error .versionAsked
  | .count =>
    let before := match f.gifts.find? a.name with
      | some ⟨_, .number n⟩ => n
      | _ => 0
    return f.keep a .words (.number (min (before + 1) Argument.countLimit))
  | .flag =>
    f.refuseRepeated a
    return f.keep a .words (.number 1)
  | .value _ _ => return { f with pending := .awaiting a }

/-- A value written together with the name of its argument is checked at once. -/
def attach (f : Frame) (a : Argument) (s : String) : Except UsageError Frame := do
  (← f.resolve).acceptText a s

def readLong (f : Frame) (name : String) (value : Option String) : Except UsageError Frame :=
  match f.long? name, value with
  | none, _ => .error (.unknownArgument ("--" ++ name))
  | some a, none => f.note a
  | some a, some s => if a.effect.takesValue then f.attach a s else .error (.valueSurplus a.label s)

-- Reads the letters after one dash. The first that takes a value takes the rest as its value, with
-- or without a sign of equality before it.
def readShorts (f : Frame) : List Char → Except UsageError Frame
  | [] => .ok f
  | c :: rest =>
    match f.short? c with
    | none => .error (.unknownArgument ("-" ++ c.toString))
    | some a =>
      if a.effect.takesValue then
        match rest with
        | [] => f.note a
        | '=' :: s => f.attach a (String.ofList s)
        | s => f.attach a (String.ofList s)
      else do (← f.note a).readShorts rest

def readPlace (f : Frame) (word : String) : Except UsageError Frame := do
  match f.place? with
  | some a => return { ← f.resolve with pending := .supplied a word, placed := f.placed + 1 }
  | none =>
    let known := (Command.named? word f.command.subcommands).isSome || word == Command.helpWord
    if f.command.subcommands.isEmpty || (f.literal && known) then .error (.unknownArgument word)
    else .error (.unknownSubcommand word)

/-- Reads a word that is no subcommand. -/
def readWord (f : Frame) (word : String) : Except UsageError Frame :=
  if f.literal then f.readPlace word
  else
    match word.toList with
    | ['-', '-'] => .ok { f with literal := true }
    | '-' :: '-' :: s =>
      let name := String.ofList (s.takeWhile (· != '='))
      match s.dropWhile (· != '=') with
      | [] => f.readLong name none
      | _ :: value => f.readLong name (some (String.ofList value))
    | '-' :: c :: s => f.readShorts (c :: s)
    | _ =>
      match f.pending with
      | .awaiting a => .ok { f with pending := .supplied a word }
      | _ => f.readPlace word

/-- Whether a word can be a subcommand here: not as the value of an option. -/
def takesSubcommand (f : Frame) : Bool :=
  !f.literal && match f.pending with
    | .awaiting _ => false
    | _ => true

/-- Lets the environment stand in for what was not given. -/
def standIns (environment : String → Option String) :
    List Argument → Frame → Except UsageError Frame
  | [], f => .ok f
  | a :: rest, f => do
    match a.effect, a.standIn.bind environment, f.gifts.find? a.name with
    | .value kind _, some s, none =>
      standIns environment rest (f.keep a .environment (← a.read kind s))
    | _, _, _ => standIns environment rest f

/-- The first pair of arguments that exclude each other. -/
def exclusion? (f : Frame) : Option (Argument × String) :=
  f.arguments.findSome? fun a =>
    if (f.gifts.find? a.name).isSome then
      (a.excludes.find? fun name => (f.gifts.find? name).isSome).map fun name => (a, name)
    else none

def finish (environment : String → Option String) (isLast : Bool) (f : Frame) :
    Except UsageError Gifts := do
  let f ← f.resolve
  let f ← f.standIns environment f.arguments
  if isLast && !f.command.subcommands.isEmpty then
    if f.gifts.isEmpty then .error (.nothingGiven f.path) else .error (.subcommandMissing f.path)
  if let some (a, other) := f.exclusion? then .error (.conflict a.label ("--" ++ other))
  match f.arguments.find? fun a => a.required && (f.gifts.find? a.name).isNone with
  | some a => .error (.argumentMissing a.label)
  | none => return f.gifts

end Frame

/-- A command line taken apart: the names of the commands from the first on, and what was given. -/
structure Matches where
  path : List String
  gifts : Gifts
deriving DecidableEq, Repr

namespace Matches

def helpFor (path : List String) (c : Command) : List String → UsageError
  | [] => .helpAsked path
  | word :: rest =>
    match Command.named? word c.subcommands with
    | some sub => helpFor (path ++ [word]) sub rest
    | none =>
      if word = Command.helpWord ∧ rest.isEmpty ∧ !c.subcommands.isEmpty then .helpAsked path
      else .unknownSubcommand word

-- Ends the commands from the innermost out.
def finish (environment : String → Option String) (inner : Frame) (outer : List Frame) :
    Except UsageError Matches := do
  let gifts ← inner.finish environment true
  let gifts ← outer.foldlM (fun g f => return (← f.finish environment false).refine g) gifts
  return ⟨inner.path, gifts⟩

/-- Reads words for the innermost command; `outer` are the commands before it, the nearest first. -/
def readWords (environment : String → Option String) (inner : Frame) (outer : List Frame) :
    List String → Except UsageError Matches
  | [] => finish environment inner outer
  | word :: rest =>
    if inner.takesSubcommand then
      match Command.named? word inner.command.subcommands with
      | some sub =>
        let next := Station.ofCommand inner.path inner.shared sub
        readWords environment { toStation := next } (inner :: outer) rest
      | none =>
        if word = Command.helpWord ∧ !inner.command.subcommands.isEmpty then
          .error (helpFor inner.path inner.command rest)
        else do readWords environment (← inner.readWord word) outer rest
    else do readWords environment (← inner.readWord word) outer rest

def ofWords (c : Command) (environment : String → Option String) (words : List String) :
    Except UsageError Matches :=
  readWords environment { toStation := .ofCommand [] [] c } [] words

def flag (m : Matches) (name : String) : Bool := (m.gifts.find? name).isSome

def text? (m : Matches) (name : String) : Option String :=
  match m.gifts.find? name with
  | some ⟨_, .text s⟩ => some s
  | _ => none

def number? (m : Matches) (name : String) : Option Nat :=
  match m.gifts.find? name with
  | some ⟨_, .number n⟩ => some n
  | _ => none

end Matches
end CaptureQueue.CommandLine
