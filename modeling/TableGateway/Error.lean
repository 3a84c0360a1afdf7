import TableGateway.Operator
import TableGateway.Permission
import TableGateway.Text.Numeral

/-!
# Errors

An `Error` is what a caller is told: its kind, where it applies, and for faulty input a `Reason`.
Reasons are causes, one constructor each; their wording is in `Reason.message` alone. The same cause
can make a request or a configuration invalid, so the kind is not part of it.

* `Error.message` is the text that is shown.
* `Error.onResource` names the resource that an invalid request was about, unless one is named
  already. No other kind of error is changed by it.
* `Error.isClientError` says that the caller, not the operator, has to mend something.
-/

namespace TableGateway

/-- Why a request or a configuration cannot be used. -/
inductive Reason where
  /-- a name is empty -/
  | emptyIdentifier
  /-- a name starts with a character that no identifier starts with -/
  | identifierStart (c : Char) (name : String)
  /-- a name holds a character that no identifier holds -/
  | identifierCharacter (c : Char) (name : String)
  /-- no operator has this name -/
  | unknownOperator (name : String)
  /-- a connective stands where a comparison is needed -/
  | booleanCondition (op : Operator)
  /-- a comparison has more or fewer values than it takes -/
  | valueCount (op : Operator) (given : Nat)
  /-- a sort direction is neither ascending nor descending -/
  | unknownDirection (text : String)
  /-- a sort direction stands where a column is needed -/
  | directionAsColumn (text : String)
  /-- no permission has this name -/
  | unknownPermission (name : String)
  /-- a rule has nothing between two commas -/
  | emptyPermission (rule : String)
  /-- a rule names `ALL` beside something else -/
  | allNotAlone (rule : String)
  /-- a rule names `NONE` beside something else -/
  | noneNotAlone (rule : String)
  /-- no dialect goes by this driver tag -/
  | unknownDriver (tag : String)
  /-- a finder name starts with no finder command -/
  | finderCommand (name : String)
  /-- what follows the command of a finder name does not start with a capital -/
  | finderStart (name : String)
  /-- a finder name connects clauses with `Or` -/
  | finderAlternative (name : String)
  /-- a finder name has nothing between two `And` -/
  | finderEmptyClause (name : String)
  /-- a clause of a finder name has an operator and no column -/
  | finderNoColumn (op : Operator) (name : String)
  /-- a finder has fewer arguments than its clauses take -/
  | finderTooFew (name : String)
  /-- a finder has more arguments than its clauses take -/
  | finderTooMany (name : String)
  /-- an INSERT has no columns -/
  | emptyInsert
  /-- an UPDATE has no columns -/
  | emptyUpdate
  /-- an UPDATE or DELETE has no value for the key column -/
  | missingKey (column : String)
  /-- a lookup has no value -/
  | emptyLookup
  /-- an operation on rows names no resource -/
  | resourceRequired
  /-- a procedure call names a resource -/
  | resourceOnCall
  /-- the configured page size is out of range -/
  | pageSize (size : Nat)
  /-- a configuration document is not well formed or not of the right shape -/
  | unreadableDocument
  /-- something is wrong with one alias of a configuration -/
  | inAlias (name : String) (reason : Reason)
  /-- something is wrong with the rule of one resource -/
  | inResource (name : String) (reason : Reason)
  /-- a reason in words of the caller's own -/
  | stated (message : String)
deriving DecidableEq

/-- The wording of a reason. -/
def Reason.message : Reason → String
  | emptyIdentifier => "Identifier cannot be empty"
  | identifierStart c name =>
    "Invalid identifier start character '" ++ c.toString ++ "' in '" ++ name ++ "'"
  | identifierCharacter c name =>
    "Invalid character '" ++ c.toString ++ "' in identifier '" ++ name ++ "'"
  | unknownOperator name => "Unknown operator '" ++ name ++ "'"
  | booleanCondition op => "Invalid operator " ++ op.name ++ " for a condition"
  | valueCount op given =>
    "Operator " ++ op.name ++ " takes " ++ Text.decimal op.valueCount ++ " value(s), got " ++
      Text.decimal given
  | unknownDirection text => "Invalid direction parameter '" ++ text ++ "'"
  | directionAsColumn text => "Invalid sort column '" ++ text ++ "'"
  | unknownPermission name => "Unknown permission '" ++ name ++ "'"
  | emptyPermission rule => "Empty permission in rule '" ++ rule ++ "'"
  | allNotAlone rule => "Invalid rule '" ++ rule ++ "': ALL has to be alone"
  | noneNotAlone rule => "Invalid rule '" ++ rule ++ "': NONE has to be alone"
  | unknownDriver tag => "Unknown driver '" ++ tag ++ "'"
  | finderCommand name => "Invalid command " ++ name
  | finderStart name => "Invalid finder " ++ name
  | finderAlternative name => "Unsupported boolean operator OR in finder " ++ name
  | finderEmptyClause name => "Empty clause in finder " ++ name
  | finderNoColumn op name => "Missing column before " ++ op.name ++ " in finder " ++ name
  | finderTooFew name => "Not enough arguments for finder " ++ name
  | finderTooMany name => "Too many arguments for finder " ++ name
  | emptyInsert => "An insert query can't be empty"
  | emptyUpdate => "An update query can't be empty"
  | missingKey column => "Missing value for primary key " ++ column
  | emptyLookup => "Invalid argument"
  | resourceRequired => "A resource is required for this operation"
  | resourceOnCall => "A stored procedure call does not take a resource"
  | pageSize size => "page_size must be between 1 and 1000, got " ++ Text.decimal size
  | unreadableDocument => "failed to parse"
  | inAlias name reason => "alias '" ++ name ++ "': " ++ reason.message
  | inResource name reason => "resource '" ++ name ++ "': " ++ reason.message
  | stated message => message

/-- What a caller is told when something fails. -/
inductive Error where
  /-- the request cannot be served as it stands -/
  | invalidRequest (reason : Reason) (resource : Option String)
  /-- the configuration cannot be used -/
  | invalidConfiguration (reason : Reason)
  /-- the permission is not granted -/
  | accessDenied (permission : Permission) (aliasName : String) (resource : Option String)
  /-- no alias of this name is configured -/
  | unknownAlias (aliasName : String)
deriving DecidableEq

namespace Error

/-- An invalid request about no resource in particular. -/
abbrev request (reason : Reason) : Error := invalidRequest reason none

/-- The part of a message that names the resource, if there is one. -/
def resourceSuffix : Option String → String
  | some r => " on resource '" ++ r ++ "'"
  | none => ""

/-- The text of an error. -/
def message : Error → String
  | invalidRequest reason resource =>
    "Invalid request" ++ resourceSuffix resource ++ ": " ++ reason.message
  | invalidConfiguration reason => "Invalid configuration: " ++ reason.message
  | accessDenied permission aliasName resource =>
    "Access denied: " ++ permission.name ++ " on " ++ aliasName ++ resourceSuffix resource
  | unknownAlias aliasName => "Unknown alias: " ++ aliasName

/-- The error, naming `resource` if it is an invalid request that names none. -/
def onResource (resource : String) : Error → Error
  | invalidRequest reason none => invalidRequest reason (some resource)
  | e => e

/-- The request was at fault. -/
def isInvalidRequest : Error → Bool
  | invalidRequest .. => true
  | _ => false

/-- The permission was missing. -/
def isAccessDenied : Error → Bool
  | accessDenied .. => true
  | _ => false

/-- The caller has to mend something; only a bad configuration is for the operator to mend. -/
def isClientError : Error → Bool
  | invalidConfiguration _ => false
  | _ => true

/-- Once a resource is named, naming another changes nothing. -/
theorem onResource_onResource (r s : String) (e : Error) :
    (e.onResource r).onResource s = e.onResource r := by
  rcases e with ⟨_, _ | _⟩ | _ | _ | _ <;> rfl

end Error

/-! ## Results that come out -/

section

variable {ε α β : Type}

/-- A step that comes out has the step before it come out. -/
theorem exists_of_bind_eq_ok {x : Except ε α} {f : α → Except ε β} {b : β}
    (h : (x >>= f) = .ok b) : ∃ a, x = .ok a ∧ f a = .ok b := by
  cases x with
  | error e => cases h
  | ok a => exact ⟨a, rfl, h⟩

theorem exists_of_map_eq_ok {x : Except ε α} {f : α → β} {b : β} (h : x.map f = .ok b) :
    ∃ a, x = .ok a ∧ f a = b := by
  cases x with
  | error e => cases h
  | ok a => exact ⟨a, rfl, Except.ok.inj h⟩

theorem eq_ok_of_toOption {x : Except ε α} {a : α} (h : x.toOption = some a) : x = .ok a := by
  cases x with
  | error e => cases h
  | ok b => exact congrArg _ (Option.some.inj h)

/-- Errors are renamed where nothing comes out. -/
theorem mapError_eq_ok_iff {ε' : Type} {x : Except ε α} {f : ε → ε'} {a : α} :
    x.mapError f = .ok a ↔ x = .ok a := by
  cases x with
  | error e => exact ⟨nofun, nofun⟩
  | ok b =>
    constructor
    · intro h
      exact congrArg _ (Except.ok.inj h)
    · intro h
      exact congrArg _ (Except.ok.inj h)

/-- A computation on what is there can be done on the first of two that is there. -/
theorem mapM_or_eq_ok {f : α → Except ε β} {o o' : Option α} {x y : Option β}
    (h : o.mapM f = .ok x) (h' : o'.mapM f = .ok y) : (o.or o').mapM f = .ok (x.or y) := by
  cases o with
  | none =>
    obtain rfl := Except.ok.inj h
    exact h'
  | some a =>
    obtain ⟨b, hb, rfl⟩ := exists_of_map_eq_ok h
    exact h

end

end TableGateway
