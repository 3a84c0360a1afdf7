import TableGateway.Configuration

/-!
# Variables in configurations

A text of a configuration can take values from the environment: `${NAME}` stands for the value of
the variable `NAME`. Expansion is a single pass. `segments` cuts a text into characters and
references from left to right, up to the first reference that is broken, and each segment is then
replaced on its own, so that a value is never searched for references again.

The error is the one of the first segment that cannot be replaced. In a configuration the texts are
taken in the order of the aliases, and in an alias in the order driver, schema, rule, rules of
resources, key columns; names are not expanded.
-/

namespace TableGateway.Console

/-- Why a text cannot be expanded. -/
inductive ExpansionError where
  /-- a reference has no closing brace -/
  | unterminated (name : String)
  /-- a reference names nothing -/
  | unnamed
  /-- a variable is not set -/
  | unset (name : String)
deriving DecidableEq

/-- The text of an expansion error. -/
def ExpansionError.message : ExpansionError → String
  | unterminated name => "unterminated env var reference: $\x7b" ++ name
  | unnamed => "invalid env var reference: $\x7b\x7d"
  | unset name => "missing env var for config expansion: " ++ name

/-- The variables of the environment that are set. -/
abbrev Environment := String → Option String

/-- A part of a text that is to be expanded. -/
inductive Segment where
  /-- a character that stands for itself -/
  | plain (c : Char)
  /-- a reference to a variable -/
  | reference (name : String)
  /-- a reference that is broken -/
  | broken (error : ExpansionError)
deriving DecidableEq

/-- The characters up to the next closing brace, and those behind it if there is one. -/
def splitBrace : List Char → List Char × Option (List Char)
  | [] => ([], none)
  | c :: rest =>
    if c = '\x7d' then ([], some rest) else ((splitBrace rest).map (c :: ·) id)

theorem length_splitBrace {cs name rest : List Char} (h : splitBrace cs = (name, some rest)) :
    rest.length < cs.length := by
  induction cs generalizing name with
  | nil => simp [splitBrace] at h
  | cons c cs ih =>
    simp only [splitBrace] at h
    split at h
    · cases h
      simp
    · simp only [Prod.map, id_eq, Prod.mk.injEq] at h
      have := ih (Prod.ext rfl h.2 : splitBrace cs = ((splitBrace cs).1, some rest))
      simp only [List.length_cons]
      omega

/-- The segments of a text, up to the first broken one. -/
def segments (cs : List Char) : List Segment :=
  match cs with
  | [] => []
  | '$' :: '\x7b' :: rest =>
    match _h : splitBrace rest with
    | (name, none) => [.broken (.unterminated (String.ofList name))]
    | ([], some _) => [.broken .unnamed]
    | (name, some rest) => .reference (String.ofList name) :: segments rest
  | c :: rest => .plain c :: segments rest
termination_by cs.length
decreasing_by
  · have := length_splitBrace _h
    simp only [List.length_cons]
    omega
  · simp

namespace Segment

/-- What a segment is replaced by. -/
def expand (env : Environment) : Segment → Except ExpansionError (List Char)
  | plain c => .ok [c]
  | reference name =>
    match env name with
    | some value => .ok value.toList
    | none => .error (.unset name)
  | broken error => .error error

/-- The variable that a segment refers to. -/
def referred? : Segment → Option String
  | reference name => some name
  | _ => none

end Segment

/-- A text with its references replaced. -/
def expand (env : Environment) (text : String) : Except ExpansionError String := do
  let parts ← (segments text.toList).mapM (Segment.expand env)
  return String.ofList parts.flatten

/-- An alias with the references in its texts replaced. -/
def expandAlias (env : Environment) (a : AliasConfiguration) :
    Except ExpansionError AliasConfiguration := do
  let driver ← expand env a.driver
  let schema ← a.schema.mapM (expand env)
  let rule ← a.rule.mapM (expand env)
  let resources ← a.resources.traverse (expand env)
  let primaryKeys ← a.primaryKeys.traverse (expand env)
  return { a with driver, schema, rule, resources, primaryKeys }

/-- A configuration with the references in its texts replaced. -/
def expandConfiguration (env : Environment) (c : Configuration) :
    Except ExpansionError Configuration := do
  let aliases ← c.aliases.traverse (expandAlias env)
  return { c with aliases }

/-- The texts of an alias that are expanded. -/
def expandedTexts (a : AliasConfiguration) : List String :=
  a.driver :: a.schema.toList ++ a.rule.toList ++ a.resources.entries.map Prod.snd ++
    a.primaryKeys.entries.map Prod.snd

/-- The variables that a configuration refers to. -/
def referredVariables (c : Configuration) : List String :=
  c.aliases.entries.flatMap fun e =>
    (expandedTexts e.2).flatMap fun text => (segments text.toList).filterMap Segment.referred?

end TableGateway.Console
