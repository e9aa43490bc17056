import CaptureQueue.CommandLine.Outline

/-! Scripts by which a shell completes command lines of a grammar. -/

set_option autoImplicit false
namespace CaptureQueue.CommandLine

inductive Shell where
  | bash
  | elvish
  | fish
  | powershell
  | zsh
deriving DecidableEq, Repr

namespace Shell

def all : List Shell := [.bash, .elvish, .fish, .powershell, .zsh]

def name : Shell → String
  | .bash => "bash"
  | .elvish => "elvish"
  | .fish => "fish"
  | .powershell => "powershell"
  | .zsh => "zsh"

def ofName? (s : String) : Option Shell := all.find? (·.name == s)

end Shell

namespace Argument

def spellings (a : Argument) : List String :=
  (a.short.map fun c => "-" ++ c.toString).toList ++ ["--" ++ a.name]

end Argument

namespace Station

def optionWords (s : Station) : List String := s.options.flatMap Argument.spellings

def placeWords (s : Station) : List String := s.places.flatMap (·.effect.choices)

end Station

namespace Completion

/-- A script in single quotes, in which a quote is written by leaving them. -/
def quoted (s : String) : String := "'" ++ s.replace "'" "'\\''" ++ "'"

def spaced (words : List String) : String := " ".intercalate words

def block (head : String) (body : List String) (tail : String) : List String :=
  [head] ++ body.map ("  " ++ ·) ++ [tail]

-- A function that finds the command in the words before the cursor and then calls for the words
-- that can follow. It is understood by both shells that write conditions with `case`.
def caseBody (stations : List Station) (offer : List String → String) : List String :=
  let path (s : Station) : String := "\"" ++ spaced s.path ++ "\""
  let enter (s : Station) : List String := s.command.subcommands.map fun c =>
    "\"" ++ spaced (s.path ++ [c.name]) ++ "\") at=\"$at " ++ c.name ++ "\" ;;"
  let chosen (s : Station) : List Argument := s.options.filter (!·.effect.choices.isEmpty)
  let values (s : Station) : List String := (chosen s).map fun a =>
    "|".intercalate (a.spellings.map fun w => "\"" ++ spaced (s.path ++ [w]) ++ "\"") ++ ") " ++
      offer a.effect.choices ++ "; return ;;"
  let follow (s : Station) : String :=
    path s ++ ") " ++ offer (s.subcommandWords ++ s.optionWords ++ s.placeWords) ++ " ;;"
  block "for word in $before; do"
    (block "case \"$at $word\" in" (stations.flatMap enter) "esac") "done" ++
    block "case \"$at $previous\" in" (stations.flatMap values) "esac" ++
    block "case \"$at\" in" (stations.map follow) "esac"

def bash (root : Command) : List String :=
  let offer (words : List String) : String :=
    "COMPREPLY=($(compgen -W \"" ++ spaced words ++ "\" -- \"$current\"))"
  block ("_" ++ root.name ++ "() \x7b")
    (["local current=\"$2\" previous=\"$3\" at=\"" ++ root.name ++ "\" word",
      "local before=\"$\x7bCOMP_WORDS[*]:1:COMP_CWORD-1\x7d\""] ++
      caseBody root.stations offer) "\x7d" ++
    ["complete -F _" ++ root.name ++ " -o bashdefault -o default " ++ root.name]

def zsh (root : Command) : List String :=
  let offer (choices : List String) : String := "compadd -- " ++ spaced choices
  ["#compdef " ++ root.name, ""] ++
    block ("_" ++ root.name ++ "() \x7b")
      (["local at=\"" ++ root.name ++ "\" word previous=\"$words[CURRENT-1]\"",
        "local -a before=($\x7bwords[2,CURRENT-1]\x7d)"] ++ caseBody root.stations offer) "\x7d" ++
    ["compdef _" ++ root.name ++ " " ++ root.name]

/-- Options are told by their names without dashes. -/
def fish (root : Command) : List String :=
  root.stations.flatMap fun s =>
    let seen := s.path.drop 1
    let condition := if seen.isEmpty then "__fish_use_subcommand"
      else "; and ".intercalate (seen.map ("__fish_seen_subcommand_from " ++ ·))
    let head := "complete -c " ++ root.name ++ " -n " ++ quoted condition
    let option (a : Argument) : String :=
      let short := (a.short.map fun c => " -s " ++ c.toString).getD ""
      let value := if !a.effect.takesValue then ""
        else if a.effect.choices.isEmpty then " -r"
        else " -r -f -a " ++ quoted (spaced a.effect.choices)
      head ++ short ++ " -l " ++ a.name ++ " -d " ++ quoted a.about ++ value
    s.options.map option ++
      s.command.subcommands.map fun c => head ++ " -f -a " ++ c.name ++ " -d " ++ quoted c.about

/-- The words that can follow each command, without the values of options. -/
def tabled (root : Command)
    (entry : List String → List (String × String) → List String) : List String :=
  root.stations.flatMap fun s => entry s.path
    (s.options.flatMap (fun a => a.spellings.map fun w => (w, a.about)) ++
      s.command.subcommands.map fun c => (c.name, c.about))

def powershell (root : Command) : List String :=
  let entry (path : List String) (words : List (String × String)) : List String :=
    block (quoted (";".intercalate path) ++ " \x7b") (words.map fun (word, about) =>
      "[CompletionResult]::new(" ++ quoted word ++ ", " ++ quoted word ++
        ", [CompletionResultType]::ParameterValue, " ++ quoted about ++ ")") "break \x7d"
  ["using namespace System.Management.Automation", ""] ++
    block
      ("Register-ArgumentCompleter -Native -CommandName " ++ quoted root.name ++
        " -ScriptBlock \x7b")
      (["param($word, $ast, $position)",
        "$path = ($ast.CommandElements | Where-Object \x7b " ++
          "\"$_\" -notlike '-*' -and \"$_\" -ne $word \x7d) -join ';'"] ++
        block "$(switch ($path) \x7b" (tabled root entry)
          "\x7d) | Where-Object \x7b $_.CompletionText -like \"$word*\" \x7d") "\x7d"

def elvish (root : Command) : List String :=
  let entry (path : List String) (words : List (String × String)) : List String :=
    block ("&" ++ quoted (";".intercalate path) ++ "= \x7b") (words.map fun (word, about) =>
      "edit:complex-candidate " ++ quoted word ++ " &display=" ++
        quoted (word ++ " " ++ about)) "\x7d"
  block ("set edit:completion:arg-completer[" ++ root.name ++ "] = \x7b|@words|")
    (["use str", "var path = " ++ quoted root.name,
      "for word $words[1..-1] \x7b if (not (str:has-prefix $word '-')) " ++
        "\x7b set path = $path';'$word \x7d \x7d"] ++
      block "var candidates = [" (tabled root entry) "]" ++
      ["if (has-key $candidates $path) \x7b $candidates[$path] \x7d"]) "\x7d"

end Completion

namespace Command

def completionScript (root : Command) (shell : Shell) : String :=
  let lines := match shell with
    | .bash => Completion.bash root
    | .elvish => Completion.elvish root
    | .fish => Completion.fish root
    | .powershell => Completion.powershell root
    | .zsh => Completion.zsh root
  String.join (lines.map (· ++ "\n"))

end Command
end CaptureQueue.CommandLine
