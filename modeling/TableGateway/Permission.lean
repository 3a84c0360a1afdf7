import TableGateway.Text.Ascii

/-!
# Permissions

Six classes of operation can be granted. Three of them change rows; a read-only alias never grants
those. `PermissionSet` is a set of permissions, told apart by its members alone
(`PermissionSet.ext`).
-/

namespace TableGateway

/-- A class of operations that can be granted on an alias or on one of its resources. -/
inductive Permission where
  | metadata
  | read
  | insert
  | update
  | delete
  | exec
deriving DecidableEq

namespace Permission

/-- All permissions, in the order in which they are listed. -/
def all : List Permission := [metadata, read, insert, update, delete, exec]

theorem mem_all (p : Permission) : p ∈ all := by
  cases p <;> decide

/-- The name of a permission in rules and messages. -/
def name : Permission → String
  | metadata => "META"
  | read => "READ"
  | insert => "INSERT"
  | update => "UPDATE"
  | delete => "DELETE"
  | exec => "EXEC"

/-- The name of a permission in the listing of a set. -/
def label : Permission → String
  | metadata => "Meta"
  | read => "Read"
  | insert => "Insert"
  | update => "Update"
  | delete => "Delete"
  | exec => "Exec"

/-- The permission changes rows. -/
def isWrite : Permission → Bool
  | insert | update | delete => true
  | metadata | read | exec => false

/-- The permission of the given name, in any letter case. -/
def ofName? (text : String) : Option Permission := all.find? fun p => Text.sameWord p.name text

theorem ofName?_name (p : Permission) : ofName? p.name = some p := by
  cases p <;> decide

end Permission

/-! ## Sets of permissions -/

/-- A set of permissions: for each permission, whether it is a member. -/
structure PermissionSet where
  /-- `META` is a member -/
  metadata : Bool
  /-- `READ` is a member -/
  read : Bool
  /-- `INSERT` is a member -/
  insert : Bool
  /-- `UPDATE` is a member -/
  update : Bool
  /-- `DELETE` is a member -/
  delete : Bool
  /-- `EXEC` is a member -/
  exec : Bool
deriving DecidableEq

namespace PermissionSet

/-- The permission is a member of the set. -/
def contains (s : PermissionSet) : Permission → Bool
  | .metadata => s.metadata
  | .read => s.read
  | .insert => s.insert
  | .update => s.update
  | .delete => s.delete
  | .exec => s.exec

/-- The set of the permissions that `f` accepts. -/
def ofPredicate (f : Permission → Bool) : PermissionSet :=
  ⟨f .metadata, f .read, f .insert, f .update, f .delete, f .exec⟩

@[simp] theorem contains_ofPredicate (f : Permission → Bool) (p : Permission) :
    (ofPredicate f).contains p = f p := by
  cases p <;> rfl

/-- Sets with the same members are equal. -/
@[ext] theorem ext {s t : PermissionSet} (h : ∀ p, s.contains p = t.contains p) : s = t := by
  obtain ⟨a, b, c, d, e, f⟩ := s
  obtain ⟨a', b', c', d', e', f'⟩ := t
  have ha := h .metadata
  have hb := h .read
  have hc := h .insert
  have hd := h .update
  have he := h .delete
  have hf := h .exec
  simp only [contains] at ha hb hc hd he hf
  subst ha hb hc hd he hf
  rfl

/-- The set without members. -/
def none : PermissionSet := ofPredicate fun _ => false

/-- The set of all permissions. -/
def full : PermissionSet := ofPredicate fun _ => true

/-- The set with `p` as a member. -/
def add (s : PermissionSet) (p : Permission) : PermissionSet :=
  ofPredicate fun q => q = p || s.contains q

/-- The set without `p`. -/
def remove (s : PermissionSet) (p : Permission) : PermissionSet :=
  ofPredicate fun q => q ≠ p && s.contains q

/-- The set without the permissions that change rows. -/
def withoutWrites (s : PermissionSet) : PermissionSet :=
  ofPredicate fun p => !p.isWrite && s.contains p

/-- The set of the permissions in a list. -/
def ofList (ps : List Permission) : PermissionSet := ofPredicate (ps.contains ·)

/-- The members, in the order in which permissions are listed. -/
def toList (s : PermissionSet) : List Permission := Permission.all.filter s.contains

/-- The number of members. -/
def size (s : PermissionSet) : Nat := s.toList.length

/-- The set has no members. -/
def isEmpty (s : PermissionSet) : Bool := s.toList.isEmpty

theorem contains_none (p : Permission) : none.contains p = false := by simp [none]

theorem contains_full (p : Permission) : full.contains p = true := by simp [full]

theorem contains_remove (s : PermissionSet) (p q : Permission) :
    (s.remove p).contains q = (decide (q ≠ p) && s.contains q) := by simp [remove]

theorem contains_withoutWrites (s : PermissionSet) (p : Permission) :
    s.withoutWrites.contains p = (!p.isWrite && s.contains p) := by simp [withoutWrites]

theorem contains_ofList (ps : List Permission) (p : Permission) :
    (ofList ps).contains p = ps.contains p := by simp [ofList]

/-- The permissions that change rows are those to insert, to update and to delete. -/
theorem withoutWrites_eq_remove (s : PermissionSet) :
    s.withoutWrites = ((s.remove .insert).remove .update).remove .delete := by
  ext p
  simp only [contains_withoutWrites, contains_remove]
  cases p <;> simp [Permission.isWrite]

theorem mem_toList {s : PermissionSet} {p : Permission} : p ∈ s.toList ↔ s.contains p = true := by
  simp [toList, Permission.mem_all]

/-- The members make up the set again. -/
theorem ofList_toList (s : PermissionSet) : ofList s.toList = s := by
  ext p
  rw [contains_ofList, Bool.eq_iff_iff, List.contains_iff_mem, mem_toList]

/-- The rule that grants the set: `ALL`, `NONE`, or the names of the members. -/
def text (s : PermissionSet) : String :=
  if s = full then "ALL"
  else if s = none then "NONE"
  else ", ".intercalate (s.toList.map Permission.name)

/-- The listing of the set: the labels of the members in braces. -/
def listing (s : PermissionSet) : String :=
  "\x7b" ++ ", ".intercalate (s.toList.map Permission.label) ++ "\x7d"

end PermissionSet

end TableGateway
