/-!
# Options and words

A command line names a subcommand, then options and words in any mixture. An option takes a value,
written as the next argument (`--alias demo`) or behind an equals sign (`--alias=demo`); a word is
whatever is left. `Argument.split` tells the two apart, whatever they mean: a value is taken as it
stands, also if it looks like an option or a request for help.
-/

namespace TableGateway.Console

/-- An option. -/
inductive Flag where
  | config
  | aliasName
  | resource
  | param
  | key
  | column
  | set
  | primaryKey
deriving DecidableEq

/-- The spelling of an option. -/
def Flag.text : Flag → String
  | config => "--config"
  | aliasName => "--alias"
  | resource => "--resource"
  | param => "--param"
  | key => "--id"
  | column => "--by"
  | set => "--set"
  | primaryKey => "--primary-key"

/-- Why a command line is refused. -/
inductive UsageError where
  /-- there is no such subcommand -/
  | unknownCommand (word : String)
  /-- there is no such action to render -/
  | unknownAction (word : String)
  /-- an option stands at the end, without its value -/
  | missingValue (flag : Flag)
  /-- a value is not a pair of key and value -/
  | notAPair (flag : Flag) (text : String)
  /-- an argument has no meaning for the subcommand -/
  | unknownArgument (text : String)
  /-- a word is one too many -/
  | unexpectedArgument (text : String)
  /-- the subcommand needs an action -/
  | missingAction
  /-- rows are picked both by key and by another column -/
  | keyAndColumn
  /-- the subcommand needs a finder name -/
  | missingFinder
  /-- the subcommand needs a resource -/
  | missingResource
  /-- the subcommand needs a procedure name -/
  | missingProcedure
  /-- a call is not about a resource -/
  | resourceOnCall
  /-- the listing of tables is not about a resource -/
  | resourceOnTables
  /-- every subcommand needs an alias -/
  | missingAlias
deriving DecidableEq

/-- The text of a usage error. -/
def UsageError.message : UsageError → String
  | unknownCommand word => "unknown command: " ++ word
  | unknownAction word => "unknown action: " ++ word
  | missingValue flag => flag.text ++ " requires a value"
  | notAPair flag text => flag.text ++ " expects KEY=VALUE, got: " ++ text
  | unknownArgument text => "unknown argument: " ++ text
  | unexpectedArgument text => "unexpected argument: " ++ text
  | missingAction => "render requires an action (read, count, meta, insert, update, delete)"
  | keyAndColumn => "--id and --by cannot be combined"
  | missingFinder => "find requires a finder name, e.g. findAllByName"
  | missingResource => "--resource is required"
  | missingProcedure => "call requires a procedure name"
  | resourceOnCall => "call does not take --resource"
  | resourceOnTables => "tables does not take --resource"
  | missingAlias => "--alias is required"

/-- A text cut at its first equals sign. -/
def splitPair? (text : String) : Option (String × String) :=
  match text.toList.dropWhile (· != '=') with
  | [] => none
  | _ :: value => some (String.ofList (text.toList.takeWhile (· != '=')), String.ofList value)

/-- An argument, or an option with its value. -/
inductive Argument where
  /-- a request for help -/
  | help
  /-- an option and its value -/
  | option (flag : Flag) (value : String)
  /-- an option at the end of the line, without a value -/
  | unfinished (flag : Flag)
  /-- anything else -/
  | word (text : String)
deriving DecidableEq

/-- The option with its value behind an equals sign that a text is. -/
def Argument.assigned? (flags : List Flag) (text : String) : Option Argument := do
  let (name, value) ← splitPair? text
  let flag ← flags.find? (·.text == name)
  return option flag value

/-- The options and words of a command line, where `flags` are the options there are. -/
def Argument.split (flags : List Flag) : List String → List Argument
  | [] => []
  | text :: rest =>
    if text = "-h" ∨ text = "--help" then help :: split flags rest
    else
      match flags.find? (·.text == text), rest with
      | some flag, [] => [unfinished flag]
      | some flag, value :: rest => option flag value :: split flags rest
      | none, rest => (assigned? flags text).getD (word text) :: split flags rest

end TableGateway.Console
