import CaptureQueue.CommandLine.Outline

/-! The help of a command. -/

set_option autoImplicit false
namespace CaptureQueue.CommandLine

namespace Argument

def written (a : Argument) : String :=
  let short := match a.short with
    | some c => "-" ++ c.toString ++ ", "
    | none => "    "
  let value := match a.effect with
    | .value _ label => " <" ++ label ++ ">"
    | _ => ""
  short ++ "--" ++ a.name ++ value

/-- What an option does, the values to choose from, and the variable that stands in for it. -/
def description (a : Argument) : String :=
  let choices := if a.effect.choices.isEmpty then []
    else [" [possible values: " ++ ", ".intercalate a.effect.choices ++ "]"]
  let standIn := (a.standIn.map fun name => " [env: " ++ name ++ "]").toList
  String.join (a.about :: choices ++ standIn)

end Argument

namespace Station

def rows (heading : String) (entries : List (String × String)) : List String :=
  let width := entries.foldl (fun w (left, _) => max w left.length) 0
  let row (left right : String) : String :=
    "  " ++ left ++ String.ofList (List.replicate (width - left.length + 2) ' ') ++ right
  if entries.isEmpty then [] else ["", heading] ++ entries.map fun (left, right) => row left right

def synopsis (s : Station) : String :=
  let place (a : Argument) : String :=
    if a.required then "<" ++ a.label ++ ">" else "[" ++ a.label ++ "]"
  let command := if s.command.subcommands.isEmpty then [] else ["<COMMAND>"]
  " ".intercalate (["Usage:"] ++ s.path ++ ["[OPTIONS]"] ++ s.places.map place ++ command)

def help (s : Station) : String :=
  "\n".intercalate ([s.command.about, "", s.synopsis] ++
    rows "Commands:" (s.command.subcommands.map fun c => (c.name, c.about)) ++
    rows "Arguments:" (s.places.map fun a => (a.label, a.description)) ++
    rows "Options:" (s.options.map fun a => (a.written, a.description))) ++ "\n"

end Station
end CaptureQueue.CommandLine
