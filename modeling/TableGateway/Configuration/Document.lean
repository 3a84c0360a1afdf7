import TableGateway.Configuration
import TableGateway.Toml.Document

/-!
# Configurations as TOML documents

A configuration is written as a TOML document. Its shape is strict: a key that is not known, a value
of another type than expected, a page size that does not fit 32 bits or an alias without a driver
makes the whole document unreadable, and nothing more is said about it. What the texts in a document
of the right shape mean is left to `Configuration.validate`.

Two spellings of the parts of an alias are less known than the table with a key for each. An alias
can be an array of its parts in their order, of which the first four have to be there; and a moment
stands for the table with its text under one reserved key.
-/

namespace TableGateway

open Toml (Value Entries)

/-- The key under which a moment stands for a table. -/
def momentKey : String := "$__toml_private_datetime"

/-- The text that a value is. -/
def textOf? : Value → Option String
  | .string text => some text
  | _ => none

/-- The truth value that a value is. -/
def flagOf? : Value → Option Bool
  | .boolean b => some b
  | _ => none

/-- The number of 32 bits that a value is. -/
def sizeOf? : Value → Option Nat
  | .integer base written => do
    let n ← Toml.Scalar.integer? base written
    if 0 ≤ n ∧ n.toNat < UInt32.size then some n.toNat else none
  | _ => none

/-- The map from text to text that a value is. -/
def textsOf? : Value → Option (SortedMap String)
  | .table entries => (entries.mapM fun e => (textOf? e.2).map (e.1, ·)).map SortedMap.ofList
  | .moment written => some (SortedMap.ofList [(momentKey, written)])
  | _ => none

/-- What `read` makes of the value at a key, or `absent` without one. -/
def fieldOr {α : Type} (entries : Entries) (key : String) (absent : α) (read : Value → Option α) :
    Option α :=
  match entries.lookup key with
  | none => some absent
  | some v => read v

namespace AliasConfiguration

/-- The keys of the parts of an alias. -/
def fields : List String := ["driver", "schema", "read_only", "acl", "resources", "primary_keys"]

/-- The alias whose parts have the given keys. -/
def ofEntries (entries : Entries) : Option AliasConfiguration := do
  if !entries.all fun e => fields.contains e.1 then none
  let driver ← (entries.lookup "driver").bind textOf?
  let schema ← fieldOr entries "schema" none fun v => (textOf? v).map some
  let readOnly ← fieldOr entries "read_only" false flagOf?
  let rule ← fieldOr entries "acl" none fun v => (textOf? v).map some
  let resources ← fieldOr entries "resources" .empty textsOf?
  let primaryKeys ← fieldOr entries "primary_keys" .empty textsOf?
  return { driver, schema, readOnly, rule, resources, primaryKeys }

/-- The alias that a value describes. -/
def ofValue : Value → Option AliasConfiguration
  | .table entries => ofEntries entries
  | .array items => if 4 ≤ items.length then ofEntries (fields.zip items) else none
  | _ => none

end AliasConfiguration

namespace Configuration

/-- The configuration that the entries of a document describe. -/
def ofEntries (entries : Entries) : Option Configuration := do
  if !entries.all fun e => e.1 == "page_size" || e.1 == "aliases" then none
  let pageSize ← fieldOr entries "page_size" RowRange.defaultLimit sizeOf?
  let aliases ← fieldOr entries "aliases" [] fun
    | .table aliases => aliases.mapM fun e => (AliasConfiguration.ofValue e.2).map (e.1, ·)
    | _ => none
  return { pageSize, aliases := SortedMap.ofList aliases }

/-- The configuration that a document describes. -/
def ofDocument? (text : String) : Option Configuration := (Toml.Document.parse text).bind ofEntries

/-- The configuration that `parser` reads from a text, if it is accepted. -/
def parseBy (parser : String → Option Configuration) (text : String) :
    Except Error Configuration :=
  match parser text with
  | none => .error (.invalidConfiguration .unreadableDocument)
  | some c => c.validate.map fun _ => c

/-- The configuration that a document describes, if it is accepted. -/
def parse (text : String) : Except Error Configuration := parseBy ofDocument? text

end Configuration

end TableGateway
