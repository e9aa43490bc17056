import CaptureQueue.CommandLine.Grammar

/-! All commands of a grammar, each with the path that leads to it and all that it can be given. -/

set_option autoImplicit false
namespace CaptureQueue.CommandLine

/-- A command as it is met on a command line. -/
structure Station where
  path : List String
  command : Command
  arguments : List Argument

namespace Station

def ofCommand (path : List String) (inherited : List Argument) (c : Command) : Station where
  path := path ++ [c.name]
  command := c
  arguments := c.arguments ++ inherited

/-- What is handed on to the subcommands. -/
def shared (s : Station) : List Argument := s.arguments.filter (·.shared)

def options (s : Station) : List Argument := s.arguments.filter (!·.positional)

def places (s : Station) : List Argument := s.arguments.filter (·.positional)

def subcommandWords (s : Station) : List String :=
  if s.command.subcommands.isEmpty then []
  else s.command.subcommands.map (·.name) ++ [Command.helpWord]

end Station

mutual

/-- A command before its subcommands, in the order of the grammar. -/
def outline (path : List String) (inherited : List Argument) : Command → List Station
  | ⟨name, about, arguments, subcommands⟩ =>
    let s := Station.ofCommand path inherited ⟨name, about, arguments, subcommands⟩
    s :: outlines s.path s.shared subcommands

def outlines (path : List String) (inherited : List Argument) : List Command → List Station
  | [] => []
  | c :: rest => outline path inherited c ++ outlines path inherited rest

end

namespace Command

def stations (c : Command) : List Station := outline [] [] c

def station? (c : Command) (path : List String) : Option Station :=
  c.stations.find? (·.path == path)

end Command
end CaptureQueue.CommandLine
