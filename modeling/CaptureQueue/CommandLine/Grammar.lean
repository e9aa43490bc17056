/-! The grammar of a command line: commands, what can be given to each, and their subcommands. -/

set_option autoImplicit false
namespace CaptureQueue.CommandLine

inductive ValueKind where
  | text
  -- A text that is not empty.
  | path
  | number (limit : Nat)
  | oneOf (names : List String)
deriving DecidableEq, Repr

inductive Effect where
  | flag
  | count
  | value (kind : ValueKind) (label : String)
  | help
  | version
deriving DecidableEq, Repr

namespace Effect

def takesValue : Effect → Bool
  | .value _ _ => true
  | _ => false

/-- The values to choose from, if the choice is limited. -/
def choices : Effect → List String
  | .value (.oneOf names) _ => names
  | _ => []

end Effect

structure Argument where
  -- Written after two dashes, unless the argument is told by its place.
  name : String
  about : String
  short : Option Char := none
  effect : Effect := .flag
  positional : Bool := false
  required : Bool := false
  shared : Bool := false
  standIn : Option String := none
  excludes : List String := []
  replaces : List String := []
deriving DecidableEq, Repr

namespace Argument

-- The argument as a usage text shows it.
def label (a : Argument) : String :=
  if a.positional then
    match a.effect with
    | .value _ label => label
    | _ => a.name
  else "--" ++ a.name

end Argument

/-- A command that has subcommands does nothing without one of them. -/
structure Command where
  name : String
  about : String
  arguments : List Argument := []
  subcommands : List Command := []

namespace Command

/-- The word that asks for the help of a subcommand. -/
def helpWord : String := "help"

def named? (word : String) (commands : List Command) : Option Command :=
  commands.find? (·.name == word)

def at? (c : Command) : List String → Option Command
  | [] => some c
  | word :: path => do (← named? word c.subcommands).at? path

end Command
end CaptureQueue.CommandLine
