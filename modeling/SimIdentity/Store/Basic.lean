import Std.Data.TreeMap

/-!
# String stores

A store keeps texts under a group and a field. There are many of them, addressed by a name and
an owner: without an owner a store is the one global store of its name, with an owner it is
private to that owner, for instance to one subscription.

`StringStore` is the interface to all stores at once. A store is acquired, read and written
through a handle, and released, either with its changes or without them. Acquiring and
releasing may fail at any time.

Names are ordered the way entries are listed: by owner, absent before present, then by name,
and inside a store by group, then by field.
-/

namespace SimIdentity

open Std

/-- The address of one store. -/
structure StoreName where
  /-- Whose store it is, `none` for the global one. -/
  owner : Option String
  /-- The name of the store. -/
  name : String
  deriving DecidableEq, Repr

/-- The address of one text inside a store. -/
structure FieldName where
  /-- The group the field belongs to. -/
  group : String
  /-- The name of the field. -/
  field : String
  deriving DecidableEq, Repr

/-- The address of one text among all stores. -/
structure Address where
  /-- The store. -/
  store : StoreName
  /-- The place in the store. -/
  field : FieldName
  deriving DecidableEq, Repr

/-! ### The order of names -/

instance : Ord StoreName where
  compare := compareLex (compareOn StoreName.owner) (compareOn StoreName.name)

instance : TransOrd StoreName :=
  inferInstanceAs (TransCmp (compareLex (compareOn StoreName.owner) (compareOn StoreName.name)))

instance : LawfulEqOrd StoreName where
  eq_of_compare {a b} h := by
    have h' : (compare a.owner b.owner).then (compare a.name b.name) = .eq := h
    obtain ⟨h₁, h₂⟩ := Ordering.then_eq_eq.1 h'
    cases a; cases b; simp_all

instance : Ord FieldName where
  compare := compareLex (compareOn FieldName.group) (compareOn FieldName.field)

instance : TransOrd FieldName :=
  inferInstanceAs (TransCmp (compareLex (compareOn FieldName.group) (compareOn FieldName.field)))

instance : LawfulEqOrd FieldName where
  eq_of_compare {a b} h := by
    have h' : (compare a.group b.group).then (compare a.field b.field) = .eq := h
    obtain ⟨h₁, h₂⟩ := Ordering.then_eq_eq.1 h'
    cases a; cases b; simp_all

/-! ### The interface -/

/-- All stores of a system, held in a state of type `σ` that every access may change. -/
class StringStore (σ : Type) where
  /-- A store that has been acquired and not been released yet. -/
  Handle : Type
  /-- Why a store could not be acquired, or its changes not be kept. -/
  Error : Type
  /-- Acquires a store. -/
  acquire : StoreName → σ → Except Error Handle × σ
  /-- Reads a text. -/
  read : Handle → FieldName → σ → Option String × σ
  /-- Writes a text. It is seen through the handle that comes back. -/
  write : Handle → FieldName → String → σ → Handle × σ
  /-- Gives a handle back, and keeps what was written through it if the flag is set. -/
  release : StoreName → Handle → Bool → σ → Except Error Unit × σ

end SimIdentity
