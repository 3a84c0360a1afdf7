import TableGateway.Access.Rule
import TableGateway.Map.Ordered

/-!
# Access tables

An access table holds the rules in force and says which aliases are read-only. What a request may do
is decided by one rule only:

1. the rule for its resource, if there is one, even to deny what the alias as a whole grants;
2. otherwise the rule for the alias as a whole;
3. otherwise nothing is granted.

On a read-only alias no rule grants a write. A rule that is added replaces the one on its scope.
-/

namespace TableGateway

/-- The rules in force and the aliases that are read-only. -/
structure AccessTable where
  /-- the permissions granted on each scope that has a rule -/
  rules : OrderedMap Scope PermissionSet
  /-- the aliases for which it was said whether they are read-only -/
  readOnly : OrderedMap String Bool

namespace AccessTable

/-- The table without rules: it denies everything. -/
def empty : AccessTable := ⟨OrderedMap.empty, OrderedMap.empty⟩

instance : EmptyCollection AccessTable := ⟨empty⟩

instance : Inhabited AccessTable := ⟨empty⟩

/-- The table with a rule added, in place of the one on its scope if there is one. -/
def addRule (t : AccessTable) (r : Rule) : AccessTable :=
  { t with rules := t.rules.set r.scope r.permissions }

/-- The table in which an alias is read-only, or is not. -/
def setReadOnly (t : AccessTable) (aliasName : String) (flag : Bool) : AccessTable :=
  { t with readOnly := t.readOnly.set aliasName flag }

/-- The number of scopes that have a rule. -/
def ruleCount (t : AccessTable) : Nat := t.rules.size

/-- The alias is read-only. -/
def isReadOnly (t : AccessTable) (aliasName : String) : Bool :=
  (t.readOnly.find? aliasName).getD false

/-- The permissions of the rule that decides, whether or not the alias is read-only. -/
def granted (t : AccessTable) (s : Scope) : PermissionSet :=
  ((t.rules.find? s).or (t.rules.find? ⟨s.aliasName, none⟩)).getD .none

/-- The permissions that hold on a scope. -/
def effective (t : AccessTable) (s : Scope) : PermissionSet :=
  if t.isReadOnly s.aliasName then (t.granted s).withoutWrites else t.granted s

/-- The permission holds on the scope. -/
def allows (t : AccessTable) (s : Scope) (p : Permission) : Bool := (t.effective s).contains p

/-- Adding a rule changes the rule on its scope and no other. -/
theorem find?_addRule (t : AccessTable) (r : Rule) (s : Scope) :
    (t.addRule r).rules.find? s =
      if r.scope = s then some r.permissions else t.rules.find? s :=
  OrderedMap.find?_set t.rules r.scope s r.permissions

/-- No rule grants a write on a read-only alias. -/
theorem not_allows_write {t : AccessTable} {s : Scope} {p : Permission}
    (hreadOnly : t.isReadOnly s.aliasName = true) (hwrite : p.isWrite = true) :
    t.allows s p = false := by
  simp [allows, effective, hreadOnly, PermissionSet.contains_withoutWrites, hwrite]

end AccessTable

end TableGateway
