/-! Why a command line is not carried out: it asks for help or for the version, or it is not in the
grammar. -/

set_option autoImplicit false
namespace CaptureQueue.CommandLine

inductive UsageError where
  | helpAsked (path : List String)
  | versionAsked
  | nothingGiven (path : List String)
  | subcommandMissing (path : List String)
  | unknownSubcommand (word : String)
  | unknownArgument (word : String)
  | valueMissing (argument : String)
  | valueNotAllowed (argument value : String)
  | valueNotNumber (argument value : String)
  | valueSurplus (argument value : String)
  | conflict (argument other : String)
  | argumentMissing (argument : String)
deriving DecidableEq, Repr

namespace UsageError

def message : UsageError → String
  | .helpAsked _ | .versionAsked | .nothingGiven _ => ""
  | .subcommandMissing path => "'" ++ " ".intercalate path ++ "' requires a subcommand"
  | .unknownSubcommand word => "unrecognized subcommand '" ++ word ++ "'"
  | .unknownArgument word => "unexpected argument '" ++ word ++ "'"
  | .valueMissing argument => "a value is required for '" ++ argument ++ "'"
  | .valueNotAllowed argument value | .valueNotNumber argument value =>
    "invalid value '" ++ value ++ "' for '" ++ argument ++ "'"
  | .valueSurplus argument value => "unexpected value '" ++ value ++ "' for '" ++ argument ++ "'"
  | .conflict argument other =>
    if argument = other then "'" ++ argument ++ "' cannot be used multiple times"
    else "'" ++ argument ++ "' cannot be used with '" ++ other ++ "'"
  | .argumentMissing argument => "'" ++ argument ++ "' was not provided"

def exitStatus : UsageError → Nat
  | .helpAsked _ | .versionAsked => 0
  | _ => 2

end UsageError
end CaptureQueue.CommandLine
