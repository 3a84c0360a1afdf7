import Mathlib.Data.Finset.Card
import TableGateway.Access.Table

/-!
# The history of an access table

A table is made by amendments, one after the other: rules are written on scopes, and aliases are
said to be read-only or not. Rules and flags come in any order and replace earlier ones; a rule that
cannot be read changes nothing. What the table says after any such history can be told from the
history alone, by looking for what was said last:

* `AccessTable.find?_rules_amend` and `AccessTable.find?_readOnly_amend` are what one amendment
  does, `AccessTable.find?_rules_amended` and `AccessTable.isReadOnly_amended` what a history does;
* `AccessTable.effective_amended` says which permissions hold in the end, that amendments of other
  subjects have no part in it and change places freely, and how many rules there are.
-/

namespace TableGateway

/-- A change of an access table. -/
inductive Amendment where
  /-- a rule is written on a scope -/
  | rule (scope : Scope) (text : String)
  /-- an alias is said to be read-only, or not to be -/
  | readOnly (aliasName : String) (flag : Bool)

namespace Amendment

/-- What is amended: the rule on a scope, or whether an alias is read-only. -/
def subject : Amendment → Scope ⊕ String
  | rule scope _ => .inl scope
  | readOnly aliasName _ => .inr aliasName

/-- The permissions that are newly granted on a scope: those of a rule that is written on it and can
be read. -/
def grantOn? (s : Scope) : Amendment → Option PermissionSet
  | rule scope text => if scope = s then (PermissionSet.parse text).toOption else none
  | readOnly .. => none

/-- What is said of an alias: that it is read-only, or that it is not. -/
def flagOf? (aliasName : String) : Amendment → Option Bool
  | rule .. => none
  | readOnly name flag => if name = aliasName then some flag else none

/-- The scope that gets a rule. -/
def ruledScope? : Amendment → Option Scope
  | rule scope text => (PermissionSet.parse text).toOption.map fun _ => scope
  | readOnly .. => none

/-- The amendment is of a rule that can decide on the scope, or of its alias. -/
def concerns (s : Scope) : Amendment → Bool
  | rule scope _ =>
    scope.aliasName = s.aliasName && (scope.resource = none || scope.resource = s.resource)
  | readOnly aliasName _ => aliasName = s.aliasName

/-- The scopes for which a history adds a rule. -/
def ruledScopes (history : List Amendment) : List Scope := history.filterMap ruledScope?

/-! ## What was said last -/

section

variable {β : Type} (f : Amendment → Option β)

/-- What the last of the amendments says that says anything. -/
def lastSaid? (history : List Amendment) : Option β := history.reverse.findSome? f

theorem lastSaid?_append (before after : List Amendment) :
    lastSaid? f (before ++ after) = (lastSaid? f after).or (lastSaid? f before) := by
  rw [lastSaid?, List.reverse_append, List.findSome?_append]
  rfl

theorem lastSaid?_cons (x : Amendment) (history : List Amendment) :
    lastSaid? f (x :: history) = (lastSaid? f history).or (f x) := by
  have hsingle : lastSaid? f [x] = f x := by
    rw [lastSaid?, List.reverse_singleton, List.findSome?_singleton]
  rw [← List.singleton_append, lastSaid?_append, hsingle]

/-- Amendments that say nothing can be left out. -/
theorem lastSaid?_filter {p : Amendment → Bool} (h : ∀ x, p x = false → f x = none)
    (history : List Amendment) : lastSaid? f (history.filter p) = lastSaid? f history := by
  induction history with
  | nil => rfl
  | cons x history ih =>
    rw [List.filter_cons, lastSaid?_cons]
    cases hx : p x with
    | true => rw [if_pos rfl, lastSaid?_cons, ih]
    | false => rw [if_neg Bool.false_ne_true, ih, h x hx, Option.or_none]

/-- Two amendments of which one says nothing can change places. -/
theorem lastSaid?_swap {x y : Amendment} (h : f x = none ∨ f y = none)
    (before after : List Amendment) :
    lastSaid? f (before ++ x :: y :: after) = lastSaid? f (before ++ y :: x :: after) := by
  rcases h with h | h <;>
    simp only [lastSaid?_append, lastSaid?_cons, h, Option.or_none]

end

/-! ## Subjects -/

variable {x y : Amendment}

/-- Of two amendments of different subjects, one grants nothing on a scope. -/
theorem grantOn?_eq_none_or (h : x.subject ≠ y.subject) (s : Scope) :
    x.grantOn? s = none ∨ y.grantOn? s = none := by
  cases x with
  | readOnly aliasName flag => exact .inl rfl
  | rule scope text =>
    cases y with
    | readOnly aliasName flag => exact .inr rfl
    | rule scope' text' =>
      by_cases hs : scope = s
      · have hs' : scope' ≠ s := by
          rintro rfl
          exact h (congrArg Sum.inl hs)
        exact .inr (if_neg hs')
      · exact .inl (if_neg hs)

/-- Of two amendments of different subjects, one says nothing of an alias. -/
theorem flagOf?_eq_none_or (h : x.subject ≠ y.subject) (aliasName : String) :
    x.flagOf? aliasName = none ∨ y.flagOf? aliasName = none := by
  cases x with
  | rule scope text => exact .inl rfl
  | readOnly name flag =>
    cases y with
    | rule scope text => exact .inr rfl
    | readOnly name' flag' =>
      by_cases hname : name = aliasName
      · have hname' : name' ≠ aliasName := by
          rintro rfl
          exact h (congrArg Sum.inr hname)
        exact .inr (if_neg hname')
      · exact .inl (if_neg hname)

/-- What does not concern a scope grants nothing on it and on its alias as a whole, and does not say
whether the alias is read-only. -/
theorem says_nothing_of_not_concerns {s : Scope} (h : x.concerns s = false) :
    x.grantOn? s = none ∧ x.grantOn? ⟨s.aliasName, none⟩ = none ∧
      x.flagOf? s.aliasName = none := by
  cases x with
  | rule scope text =>
    refine ⟨if_neg ?_, if_neg ?_, rfl⟩
    · rintro rfl
      simp [concerns] at h
    · rintro rfl
      simp [concerns] at h
  | readOnly name flag =>
    refine ⟨rfl, rfl, if_neg ?_⟩
    rintro rfl
    simp [concerns] at h

/-- A scope gets a rule when permissions are granted on it. -/
theorem ruledScope?_eq_some_iff {s : Scope} :
    x.ruledScope? = some s ↔ (x.grantOn? s).isSome = true := by
  cases x with
  | readOnly name flag => simp [ruledScope?, grantOn?]
  | rule scope text =>
    rw [ruledScope?, grantOn?]
    by_cases hs : scope = s
    · rw [if_pos hs, hs]
      cases (PermissionSet.parse text).toOption <;> simp
    · rw [if_neg hs]
      simp [hs]

theorem mem_ruledScopes_iff {history : List Amendment} {s : Scope} :
    s ∈ ruledScopes history ↔ (lastSaid? (grantOn? s) history).isSome = true := by
  rw [ruledScopes, List.mem_filterMap, lastSaid?, List.findSome?_isSome_iff]
  simp only [List.mem_reverse, ruledScope?_eq_some_iff]

end Amendment

/-! ## Tables with a history -/

namespace AccessTable

open Amendment

/-- The table with an amendment made. A rule that cannot be read is not added. -/
def amend (t : AccessTable) : Amendment → AccessTable
  | .rule scope text =>
    match Rule.parse scope text with
    | .ok r => t.addRule r
    | .error _ => t
  | .readOnly aliasName flag => t.setReadOnly aliasName flag

/-- The table that amendments make of the empty one. -/
def amended (history : List Amendment) : AccessTable := history.foldl amend empty

/-- An amendment changes the rule on a scope if it grants permissions on it. -/
theorem find?_rules_amend (t : AccessTable) (x : Amendment) (s : Scope) :
    (t.amend x).rules.find? s = (x.grantOn? s).or (t.rules.find? s) := by
  cases x with
  | readOnly aliasName flag => rfl
  | rule scope text =>
    rw [amend, Rule.parse, Amendment.grantOn?]
    cases PermissionSet.parse text with
    | error e => simp [Except.map, Except.toOption]
    | ok permissions =>
      have hadd := find?_addRule t ⟨scope, permissions⟩ s
      by_cases hs : scope = s
      · rw [if_pos hs] at hadd ⊢
        exact hadd
      · rw [if_neg hs] at hadd ⊢
        exact hadd

/-- An amendment changes whether an alias is read-only if it says so. -/
theorem find?_readOnly_amend (t : AccessTable) (x : Amendment) (aliasName : String) :
    (t.amend x).readOnly.find? aliasName =
      (x.flagOf? aliasName).or (t.readOnly.find? aliasName) := by
  cases x with
  | rule scope text =>
    rw [amend]
    cases Rule.parse scope text <;> rfl
  | readOnly name flag =>
    rw [amend, setReadOnly, OrderedMap.find?_set, Amendment.flagOf?]
    by_cases hname : name = aliasName
    · rw [if_pos hname, if_pos hname, Option.some_or]
    · rw [if_neg hname, if_neg hname, Option.none_or]

/-- What each amendment overrides where it says something, a history overrides by what it says
last. -/
theorem foldl_amend_eq {β : Type} (f : Amendment → Option β) (entry : AccessTable → Option β)
    (hamend : ∀ t x, entry (t.amend x) = (f x).or (entry t)) (history : List Amendment)
    (t : AccessTable) :
    entry (history.foldl amend t) = (lastSaid? f history).or (entry t) := by
  induction history generalizing t with
  | nil => rfl
  | cons x history ih => rw [List.foldl_cons, ih, hamend, lastSaid?_cons, Option.or_assoc]

/-- The rule on a scope is the last that was written on it. -/
theorem find?_rules_amended (history : List Amendment) (s : Scope) :
    (amended history).rules.find? s = lastSaid? (grantOn? s) history := by
  have hrun := foldl_amend_eq (grantOn? s) (·.rules.find? s)
    (fun t x => find?_rules_amend t x s) history empty
  rwa [empty, OrderedMap.find?_empty, Option.or_none] at hrun

/-- An alias is read-only if that was said of it last. -/
theorem isReadOnly_amended (history : List Amendment) (aliasName : String) :
    (amended history).isReadOnly aliasName =
      (lastSaid? (flagOf? aliasName) history).getD false := by
  have hrun := foldl_amend_eq (flagOf? aliasName) (·.readOnly.find? aliasName)
    (fun t x => find?_readOnly_amend t x aliasName) history empty
  rw [empty, OrderedMap.find?_empty, Option.or_none] at hrun
  exact congrArg (Option.getD · false) hrun

/-- The permissions that hold depend on nothing but what was said last of the scope and of its
alias. -/
theorem effective_amended_congr {history history' : List Amendment} {s : Scope}
    (hscope : lastSaid? (grantOn? s) history = lastSaid? (grantOn? s) history')
    (halias : lastSaid? (grantOn? ⟨s.aliasName, none⟩) history =
      lastSaid? (grantOn? ⟨s.aliasName, none⟩) history')
    (hflag : lastSaid? (flagOf? s.aliasName) history = lastSaid? (flagOf? s.aliasName) history') :
    (amended history).effective s = (amended history').effective s := by
  simp only [effective, granted, isReadOnly_amended, find?_rules_amended, hscope, halias, hflag]

/-- There are as many rules as scopes for which one was added. -/
theorem ruleCount_amended (history : List Amendment) :
    (amended history).ruleCount = (ruledScopes history).toFinset.card := by
  have hkeys : (amended history).rules.keys.toFinset = (ruledScopes history).toFinset := by
    ext s
    rw [List.mem_toFinset, List.mem_toFinset, OrderedMap.mem_keys_iff, find?_rules_amended,
      mem_ruledScopes_iff]
  have hdistinct : (amended history).rules.keys.Nodup := (amended history).rules.distinct
  rw [← hkeys, List.toFinset_card_of_nodup hdistinct, ruleCount, OrderedMap.size, OrderedMap.keys,
    List.length_map]

/-- **The last word counts.** After any history of amendments the permissions on an alias, or on a
resource of it, are those of the last rule for the resource, or else of the last rule for the alias
as a whole, or else none; without those to insert, to update and to delete if the alias was last
said to be read-only. There are as many rules as scopes for which one was added.

So amendments that are of other aliases, or of other resources of the alias, can be left out, and
neighbours of different subjects can change places. -/
theorem effective_amended (history : List Amendment) (aliasName : String)
    (resource : Option String) :
    let granted := ((resource.bind fun r => lastSaid? (grantOn? ⟨aliasName, some r⟩) history).or
      (lastSaid? (grantOn? ⟨aliasName, none⟩) history)).getD .none
    (amended history).effective ⟨aliasName, resource⟩ =
        (if lastSaid? (flagOf? aliasName) history = some true then
          ((granted.remove .insert).remove .update).remove .delete
        else granted) ∧
      (amended history).ruleCount = (ruledScopes history).toFinset.card ∧
      (amended (history.filter (concerns ⟨aliasName, resource⟩))).effective
          ⟨aliasName, resource⟩ =
        (amended history).effective ⟨aliasName, resource⟩ ∧
      ∀ before x y after, x.subject ≠ y.subject →
        (amended (before ++ x :: y :: after)).effective ⟨aliasName, resource⟩ =
            (amended (before ++ y :: x :: after)).effective ⟨aliasName, resource⟩ ∧
          (amended (before ++ x :: y :: after)).ruleCount =
            (amended (before ++ y :: x :: after)).ruleCount := by
  intro granted
  refine ⟨?_, ruleCount_amended history, ?_, fun before x y after hsubject => ⟨?_, ?_⟩⟩
  · have hgranted : (amended history).granted ⟨aliasName, resource⟩ = granted := by
      rw [AccessTable.granted, find?_rules_amended, find?_rules_amended]
      cases resource with
      | none => exact congrArg (Option.getD · PermissionSet.none) Option.or_self
      | some r => rfl
    rw [effective, hgranted, isReadOnly_amended, PermissionSet.withoutWrites_eq_remove]
    rcases lastSaid? (flagOf? aliasName) history with _ | _ | _ <;> rfl
  · refine effective_amended_congr ?_ ?_ ?_ <;> refine lastSaid?_filter _ (fun x hx => ?_) history
    · exact (says_nothing_of_not_concerns hx).1
    · exact (says_nothing_of_not_concerns hx).2.1
    · exact (says_nothing_of_not_concerns hx).2.2
  · refine effective_amended_congr ?_ ?_ ?_
    · exact lastSaid?_swap _ (grantOn?_eq_none_or hsubject _) before after
    · exact lastSaid?_swap _ (grantOn?_eq_none_or hsubject _) before after
    · exact lastSaid?_swap _ (flagOf?_eq_none_or hsubject _) before after
  · rw [ruleCount_amended, ruleCount_amended]
    congr 1
    ext s
    rw [List.mem_toFinset, List.mem_toFinset, mem_ruledScopes_iff, mem_ruledScopes_iff,
      lastSaid?_swap _ (grantOn?_eq_none_or hsubject s)]

/-- An alias that was made read-only stays so under the rules that follow, of which one cannot be
read and one is of another alias. -/
example :
    (amended [.readOnly "demo" true, .rule ⟨"demo", none⟩ "ALL",
      .rule ⟨"demo", some "users"⟩ "READ, WRITE", .rule ⟨"other", none⟩ "NONE"]).effective
        ⟨"demo", some "users"⟩ = .ofList [.metadata, .read, .exec] := by
  decide

end AccessTable

end TableGateway
