import TableGateway.Console.Argument
import TableGateway.Text.Blank

/-!
# Commands

What a command line asks for. The options and words of a subcommand are read in two steps, each of
which stops at the first thing that is wrong:

* `Draft.fill` collects them from left to right, and reports a word or a value that has no place in
  the subcommand; a request for help ends the reading;
* `Command.parse` then checks that what the subcommand needs is there.

Of an option given several times the last value counts, except for those that collect pairs.
-/

namespace TableGateway.Console

/-! ## Collecting -/

/-- What has been collected from a command line. -/
structure Draft where
  /-- the configuration file -/
  config : Option String := none
  /-- the alias -/
  aliasName : Option String := none
  /-- the resource -/
  resource : Option String := none
  /-- the query parameters -/
  params : List (String × String) := []
  /-- the key value -/
  key : Option String := none
  /-- a column and the value it is to have -/
  column : Option (String × String) := none
  /-- columns and the values they are set to -/
  set : List (String × String) := []
  /-- the key column -/
  primaryKey : Option String := none
  /-- the words -/
  words : List String := []

/-- The pair that the value of an option is: the key without outer blanks, which has to be
something, and the value as it stands. -/
def parsePair (flag : Flag) (text : String) : Except UsageError (String × String) :=
  match splitPair? text with
  | none => .error (.notAPair flag text)
  | some (key, value) =>
    if Text.isBlankText key then .error (.notAPair flag text) else .ok (Text.trim key, value)

/-- The draft with one more option. -/
def Draft.withOption (d : Draft) (flag : Flag) (value : String) : Except UsageError Draft :=
  match flag with
  | .config => .ok { d with config := some value }
  | .aliasName => .ok { d with aliasName := some value }
  | .resource => .ok { d with resource := some value }
  | .param => (parsePair flag value).map fun p => { d with params := d.params ++ [p] }
  | .key => .ok { d with key := some value }
  | .column => (parsePair flag value).map fun p => { d with column := some p }
  | .set => (parsePair flag value).map fun p => { d with set := d.set ++ [p] }
  | .primaryKey => .ok { d with primaryKey := some value }

/-- The draft with the arguments of a line, or nothing if they ask for help. `accepts` says whether
a word has a place beside the words before it. -/
def Draft.fill (accepts : List String → String → Except UsageError Unit) (d : Draft) :
    List Argument → Except UsageError (Option Draft)
  | [] => .ok (some d)
  | .help :: _ => .ok none
  | .unfinished flag :: _ => .error (.missingValue flag)
  | .option flag value :: rest => do
    let d ← d.withOption flag value
    fill accepts d rest
  | .word text :: rest =>
    if "--".toList.isPrefixOf text.toList then .error (.unknownArgument text)
    else do
      accepts d.words text
      fill accepts { d with words := d.words ++ [text] } rest

/-! ## Commands -/

/-- What there is help on. -/
inductive HelpTopic where
  | root
  | render
  | find
  | call
  | acl
  | tables
deriving DecidableEq

/-- What can be rendered. -/
inductive RenderAction where
  | read
  | count
  | describe
  | insert
  | update
  | delete
deriving DecidableEq

/-- The action of the given name. -/
def RenderAction.ofWord? : String → Option RenderAction
  | "read" => some read
  | "count" => some count
  | "meta" => some describe
  | "insert" => some insert
  | "update" => some update
  | "delete" => some delete
  | _ => none

/-- What a command line asks for. -/
inductive Command where
  /-- help -/
  | help (topic : HelpTopic)
  /-- the plan of an action on rows -/
  | render (config aliasName : String) (resource : Option String) (action : RenderAction)
      (key : Option String) (column : Option (String × String))
      (set params : List (String × String)) (primaryKey : Option String)
  /-- the plan of a finder -/
  | find (config aliasName resource name : String) (arguments : List String)
      (params : List (String × String)) (primaryKey : Option String)
  /-- the plan of a procedure call -/
  | call (config aliasName procedure : String) (arguments : List String)
  /-- the permissions on an alias or a resource -/
  | acl (config aliasName : String) (resource : Option String)
  /-- the plan of the listing of tables -/
  | tables (config aliasName : String)
deriving DecidableEq

namespace Command

/-- The configuration file where none is named. -/
def defaultConfig : String := "tablerest.toml"

/-- The configuration file of a draft. -/
def configOf (d : Draft) : String := d.config.getD defaultConfig

/-- The alias of a draft, which has to be there. -/
def aliasOf (d : Draft) : Except UsageError String :=
  match d.aliasName with
  | some aliasName => .ok aliasName
  | none => .error .missingAlias

/-- The options of every subcommand. -/
def sharedFlags : List Flag := [.config, .aliasName, .resource, .param]

/-- The command that `finish` makes of the arguments of a subcommand, or help on it. -/
def read (topic : HelpTopic) (flags : List Flag)
    (accepts : List String → String → Except UsageError Unit)
    (finish : Draft → Except UsageError Command) (args : List String) :
    Except UsageError Command := do
  match ← Draft.fill accepts {} (Argument.split (sharedFlags ++ flags) args) with
  | none => return help topic
  | some d => finish d

/-- One word, the name of an action, has a place. -/
def acceptAction : List String → String → Except UsageError Unit
  | [], text =>
    if (RenderAction.ofWord? text).isSome then .ok () else .error (.unknownAction text)
  | _, text => .error (.unexpectedArgument text)

/-- Any word has a place. -/
def acceptAny : List String → String → Except UsageError Unit := fun _ _ => .ok ()

/-- No word has a place. -/
def acceptNone : List String → String → Except UsageError Unit :=
  fun _ text => .error (.unknownArgument text)

/-- The command of `render`. -/
def finishRender (d : Draft) : Except UsageError Command :=
  match d.words.head?.bind RenderAction.ofWord? with
  | none => .error .missingAction
  | some action =>
    if d.key.isSome && d.column.isSome then .error .keyAndColumn
    else do
      let aliasName ← aliasOf d
      return render (configOf d) aliasName d.resource action d.key d.column d.set d.params
        d.primaryKey

/-- The command of `find`. -/
def finishFind (d : Draft) : Except UsageError Command :=
  match d.words, d.resource with
  | [], _ => .error .missingFinder
  | _ :: _, none => .error .missingResource
  | name :: arguments, some resource => do
    let aliasName ← aliasOf d
    return find (configOf d) aliasName resource name arguments d.params d.primaryKey

/-- The command of `call`. -/
def finishCall (d : Draft) : Except UsageError Command :=
  match d.words with
  | [] => .error .missingProcedure
  | procedure :: arguments =>
    if d.resource.isSome then .error .resourceOnCall
    else do
      let aliasName ← aliasOf d
      return call (configOf d) aliasName procedure arguments

/-- The command of `acl`. -/
def finishAcl (d : Draft) : Except UsageError Command := do
  let aliasName ← aliasOf d
  return acl (configOf d) aliasName d.resource

/-- The command of `tables`. -/
def finishTables (d : Draft) : Except UsageError Command :=
  if d.resource.isSome then .error .resourceOnTables
  else do
    let aliasName ← aliasOf d
    return tables (configOf d) aliasName

/-- The command that a command line asks for; an empty one asks for help. -/
def parse : List String → Except UsageError Command
  | [] => .ok (help .root)
  | word :: args =>
    match word with
    | "-h" | "--help" => .ok (help .root)
    | "render" => read .render [.key, .column, .set, .primaryKey] acceptAction finishRender args
    | "find" => read .find [.primaryKey] acceptAny finishFind args
    | "call" => read .call [] acceptAny finishCall args
    | "acl" => read .acl [] acceptNone finishAcl args
    | "tables" => read .tables [] acceptNone finishTables args
    | _ => .error (.unknownCommand word)

/-- The configuration file that a command reads. -/
def configFile? : Command → Option String
  | help _ => none
  | render config .. | find config .. | call config .. | acl config .. | tables config .. =>
    some config

end Command

end TableGateway.Console
