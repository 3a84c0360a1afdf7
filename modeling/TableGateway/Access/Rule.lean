import TableGateway.Error
import TableGateway.Text.Blank

/-!
# Rules

A rule grants permissions on an alias, or on one resource of it. It is written as the names of the
permissions with commas between them, in any order and letter case, with any blanks around them and
any number of times: what counts is the set. Two words stand for whole sets and have to be alone,
`ALL` for every permission and `NONE` for none; a blank rule grants none too.

Reading a rule goes from left to right, and a part that is no permission is reported before `ALL` or
`NONE` in bad company is.
-/

namespace TableGateway

/-- The permission that a text names, between any blanks. -/
def Permission.parse (text : String) : Except Error Permission :=
  match Permission.ofName? (Text.trim text) with
  | some p => .ok p
  | none => .error (.invalidConfiguration (.unknownPermission (Text.trim text)))

/-- A part of a written rule. -/
inductive RuleWord where
  /-- `ALL` -/
  | all
  /-- `NONE` -/
  | none
  /-- the name of a permission -/
  | permission (p : Permission)
deriving DecidableEq

namespace RuleWord

/-- The part of a rule that a text between two commas stands for; `rule` is the whole rule. -/
def read (rule text : String) : Except Reason RuleWord :=
  if Text.sameWord text "ALL" then .ok all
  else if Text.sameWord text "NONE" then .ok none
  else if text = "" then .error (.emptyPermission rule)
  else
    match Permission.ofName? text with
    | some p => .ok (permission p)
    | Option.none => .error (.unknownPermission text)

/-- The permission that a part names. -/
def permission? : RuleWord → Option Permission
  | permission p => some p
  | _ => Option.none

end RuleWord

namespace PermissionSet

/-- The texts between the commas of a rule, without outer blanks. -/
def ruleTexts (rule : String) : List String :=
  (rule.toList.splitOn ',').map fun cs => String.ofList (Text.trimChars cs)

/-- The set that the parts of a rule stand for together. -/
def ofRuleWords (rule : String) (words : List RuleWord) : Except Reason PermissionSet :=
  let named := words.filterMap RuleWord.permission?
  if words.contains .all then
    if words.contains .none || !named.isEmpty then .error (.allNotAlone rule) else .ok full
  else if words.contains .none && !named.isEmpty then .error (.noneNotAlone rule)
  else .ok (ofList named)

/-- The set that a rule grants, or the first thing that is wrong with it. -/
def readRule (rule : String) : Except Reason PermissionSet :=
  if Text.isBlankText rule then .ok none
  else do
    let words ← (ruleTexts rule).mapM (RuleWord.read rule)
    ofRuleWords rule words

/-- The set that a rule of a configuration grants. -/
def parse (rule : String) : Except Error PermissionSet :=
  (readRule rule).mapError .invalidConfiguration

theorem exists_readRule_iff {rule : String} :
    (∃ set, readRule rule = .ok set) ↔ ∃ set, parse rule = .ok set :=
  exists_congr fun _ => mapError_eq_ok_iff.symm

end PermissionSet

/-- What a rule speaks of: an alias as a whole, or one of its resources. -/
structure Scope where
  /-- the alias -/
  aliasName : String
  /-- the resource, or nothing for the alias as a whole -/
  resource : Option String
deriving DecidableEq

/-- A grant of permissions. Rules are equal when they grant the same permissions on the same
scope, however they were written. -/
structure Rule where
  /-- what the rule speaks of -/
  scope : Scope
  /-- what it grants -/
  permissions : PermissionSet
deriving DecidableEq

/-- The rule on a scope that is written as the given text. -/
def Rule.parse (scope : Scope) (text : String) : Except Error Rule :=
  (PermissionSet.parse text).map (⟨scope, ·⟩)

/-- A rule is read if its text is, and grants what this does. -/
theorem Rule.parse_eq_ok_iff {scope : Scope} {text : String} {r : Rule} :
    Rule.parse scope text = .ok r ↔
      r.scope = scope ∧ PermissionSet.parse text = .ok r.permissions := by
  obtain ⟨s, ps⟩ := r
  rw [Rule.parse]
  cases PermissionSet.parse text with
  | error e => simp [Except.map]
  | ok s' =>
    simp only [Except.map, Except.ok.injEq, Rule.mk.injEq]
    exact ⟨fun h => ⟨h.1.symm, h.2⟩, fun h => ⟨h.1.symm, h.2⟩⟩

end TableGateway
