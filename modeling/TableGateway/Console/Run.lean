import TableGateway.Configuration.Document
import TableGateway.Console.Directory
import TableGateway.Console.Expansion
import TableGateway.Console.Help
import TableGateway.Console.Json
import TableGateway.Gateway

/-!
# The command line

`run` is the whole program on one command line, apart from reading files and variables and from
printing: it is told how to do the former and gives the text of the latter. A command is carried out
in the order in which things can fail: the command line, the configuration file and what it refers
to, the alias, and only then the request itself.

What is printed is a plan, or for `acl` the permissions that hold on an alias or resource.
-/

namespace TableGateway.Console

/-- Why a command line has no result. -/
inductive Failure where
  /-- the command line is refused -/
  | usage (error : UsageError)
  /-- the configuration file cannot be read -/
  | unreadable (path : String) (error : ReadError)
  /-- the configuration file is not a configuration -/
  | unparsable (path : String)
  /-- a text of the configuration cannot be expanded -/
  | expansion (error : ExpansionError)
  /-- the configuration is not accepted -/
  | rejected (path : String) (error : Error)
  /-- the alias is not configured -/
  | unknownAlias (aliasName path : String) (configured : List String)
  /-- the request is refused -/
  | refused (error : Error)
deriving DecidableEq

/-- The text of a failure. -/
def Failure.message : Failure → String
  | usage error => error.message
  | unreadable path error => "failed to read config file " ++ path ++ ": " ++ error.message
  | unparsable path => "failed to parse config file " ++ path
  | expansion error => error.message
  | rejected path error => "invalid config file " ++ path ++ ": " ++ error.message
  | unknownAlias aliasName path configured =>
    "unknown alias '" ++ aliasName ++ "' in " ++ path ++ " (configured: " ++
      ", ".intercalate configured ++ ")"
  | refused error => error.message

/-! ## Configuration -/

/-- The configuration that `parser` reads from the text of a file, with its references replaced. -/
def loadBy (parser : String → Option Configuration) (env : Environment) (path text : String) :
    Except Failure Configuration :=
  match parser text with
  | none => .error (.unparsable path)
  | some c => do
    let c ← (expandConfiguration env c).mapError .expansion
    c.validate.mapError (.rejected path)
    return c

/-- The configuration that the text of a file describes, with its references replaced. -/
def load (env : Environment) (path text : String) : Except Failure Configuration :=
  loadBy Configuration.ofDocument? env path text

/-- The configuration in a file, which has to have the given alias. -/
def loadFor (env : Environment) (read : String → Except ReadError String)
    (path aliasName : String) : Except Failure Configuration := do
  let text ← (read path).mapError (.unreadable path)
  let c ← load env path text
  if (c.alias? aliasName).isSome then return c
  else .error (.unknownAlias aliasName path c.aliases.keys)

/-! ## Results -/

/-- A field that is printed only if there is a value for it. -/
def optionalField (name : String) (value : Option Json) : List (String × Json) :=
  value.toList.map (name, ·)

/-- A plan as it is printed. -/
def planJson (aliasName : String) (resource : Option String) (p : Plan) : Json :=
  .object (
    [("alias", .string aliasName)] ++ optionalField "resource" (resource.map .string) ++
    [("dialect", .string p.dialect.name), ("sql", .string p.statement.sql),
      ("params", .array (p.statement.params.map .string))] ++
    optionalField "limit" (p.range.map fun r =>
      .object [("limit", .number r.limit), ("start", .number r.start)]))

/-- The permissions on an alias or a resource as they are printed. -/
def permissionsJson (aliasName : String) (resource : Option String) (s : PermissionSet) : Json :=
  let names := fun (ps : List Permission) => Json.array (ps.map fun p => .string p.name)
  .object (
    [("alias", .string aliasName)] ++ optionalField "resource" (resource.map .string) ++
    [("effective", .string s.text), ("allowed", names (Permission.all.filter s.contains)),
      ("denied", names (Permission.all.filter fun p => !s.contains p))])

/-- The plan of a request under a configuration, as it is printed. -/
def planned (c : Configuration) (q : Request) : Except Failure Json := do
  let g ← (Gateway.ofConfiguration c).mapError .refused
  let p ← (g.plan q).mapError .refused
  return planJson q.aliasName q.resource p

/-! ## Commands -/

/-- The rows that the options of `render` pick. -/
def lookupOf (key : Option String) (column : Option (String × String)) : Option Lookup :=
  match key with
  | some value => some ⟨none, value⟩
  | none => column.map fun p => ⟨some p.1, p.2⟩

/-- The action that the options of `render` describe. A key that is not given is left blank, which
the gateway refuses where it needs one. -/
def RenderAction.toAction (action : RenderAction) (key : Option String)
    (column : Option (String × String)) (set : List (String × String)) : Action :=
  match action with
  | read => .read (lookupOf key column)
  | count => .count (lookupOf key column)
  | describe => .describe
  | insert => .insert set
  | update => .update (key.getD "") set
  | delete => .delete (key.getD "")

/-- The result of a command, as it is printed. -/
def Command.result (env : Environment) (read : String → Except ReadError String) :
    Command → Except Failure String
  | help topic => .ok topic.text
  | render config aliasName resource action key column set params primaryKey => do
    let c ← loadFor env read config aliasName
    let action := action.toAction key column set
    let json ← planned c { aliasName, resource, action, parameters := ⟨params⟩, primaryKey }
    return json.pretty ++ "\n"
  | find config aliasName resource name arguments params primaryKey => do
    let c ← loadFor env read config aliasName
    let action := Action.find name arguments
    let json ← planned c
      { aliasName, resource := some resource, action, parameters := ⟨params⟩, primaryKey }
    return json.pretty ++ "\n"
  | call config aliasName procedure arguments => do
    let c ← loadFor env read config aliasName
    let json ← planned c { aliasName, resource := none, action := .call procedure arguments }
    return json.pretty ++ "\n"
  | acl config aliasName resource => do
    let c ← loadFor env read config aliasName
    let access ← (AccessTable.ofConfiguration c).mapError .refused
    let json := permissionsJson aliasName resource (access.effective ⟨aliasName, resource⟩)
    return json.pretty ++ "\n"
  | tables config aliasName => do
    let c ← loadFor env read config aliasName
    let json ← planned c { aliasName, resource := none, action := .describe }
    return json.pretty ++ "\n"

/-- What a command line prints, or why it prints nothing. -/
def run (env : Environment) (read : String → Except ReadError String) (args : List String) :
    Except Failure String := do
  let command ← (Command.parse args).mapError .usage
  command.result env read

end TableGateway.Console
