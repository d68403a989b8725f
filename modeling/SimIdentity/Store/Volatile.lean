import SimIdentity.Store.Basic

/-!
# Stores in memory

A `VolatileStore` keeps all stores in memory. A handle is a private copy of one store: it sees
its own writes and nothing that happens to the store after it was taken. Releasing it with its
changes replaces the store by the copy as a whole.

It counts how often a store was acquired and how often a changed one was kept, which tells how
hard a client wears the medium. It can be switched off, and then refuses to hand out a store
and to keep changes.

The view of it is `VolatileStore.get?`, with one lemma for each way to change what it shows.
-/

namespace SimIdentity

open Std

/-- What is in one store. -/
abbrev Fields := TreeMap FieldName String

/-- Stores that last as long as the program. -/
structure VolatileStore where
  /-- The contents, store by store. -/
  stores : TreeMap StoreName Fields := ∅
  /-- Whether stores can be acquired and changes be kept. -/
  available : Bool := true
  /-- How often a store was acquired. -/
  opened : Nat := 0
  /-- How often the changes to a store were kept. -/
  committed : Nat := 0

namespace VolatileStore

/-- A private copy of one store. -/
structure Snapshot where
  /-- What the copy holds. -/
  fields : Fields
  /-- Whether something was written to it. -/
  modified : Bool := false

/-- Why an access failed. -/
inductive Error where
  /-- The stores are switched off. -/
  | unavailable
  deriving DecidableEq, Repr

instance : EmptyCollection VolatileStore := ⟨{}⟩

/-- What is in the named store. A store nobody wrote to is empty. -/
def fields (store : VolatileStore) (name : StoreName) : Fields :=
  store.stores.getD name ∅

/-- The text at an address. -/
def get? (store : VolatileStore) (address : Address) : Option String :=
  (store.fields address.store)[address.field]?

/-- Replaces the named store. -/
def setFields (store : VolatileStore) (name : StoreName) (fields : Fields) : VolatileStore :=
  { store with stores := store.stores.insert name fields }

/-- Puts a text at an address. -/
def insert (store : VolatileStore) (address : Address) (text : String) : VolatileStore :=
  store.setFields address.store ((store.fields address.store).insert address.field text)

/-- Switches the stores on or off. -/
def setAvailable (store : VolatileStore) (available : Bool) : VolatileStore :=
  { store with available }

/-- All texts with their addresses, in the order of the addresses. -/
def toList (store : VolatileStore) : List (Address × String) :=
  store.stores.toList.flatMap fun (name, fields) =>
    fields.toList.map fun (field, text) => (⟨name, field⟩, text)

/-! ### Access through handles -/

/-- Hands out a copy of the named store. -/
def acquire (name : StoreName) (store : VolatileStore) :
    Except Error Snapshot × VolatileStore :=
  if store.available then
    (.ok { fields := store.fields name }, { store with opened := store.opened + 1 })
  else
    (.error .unavailable, store)

/-- The text in a copy. -/
def Snapshot.get? (handle : Snapshot) (field : FieldName) : Option String :=
  handle.fields[field]?

/-- The copy with a text written to it. -/
def Snapshot.insert (handle : Snapshot) (field : FieldName) (text : String) : Snapshot where
  fields := handle.fields.insert field text
  modified := true

/-- Takes a copy back. With `commit` the named store becomes equal to it, which counts only if
something was written to it. -/
def release (name : StoreName) (handle : Snapshot) (commit : Bool) (store : VolatileStore) :
    Except Error Unit × VolatileStore :=
  if ¬ commit then
    (.ok (), store)
  else if store.available then
    let committed := if handle.modified then store.committed + 1 else store.committed
    (.ok (), { store.setFields name handle.fields with committed })
  else
    (.error .unavailable, store)

instance : StringStore VolatileStore where
  Handle := Snapshot
  Error := Error
  acquire := acquire
  read handle field store := (handle.get? field, store)
  write handle field text store := (handle.insert field text, store)
  release := release

/-! ### What an access shows and changes -/

@[simp] theorem fields_setFields (store : VolatileStore) (name other : StoreName)
    (fields : Fields) :
    (store.setFields name fields).fields other =
      if name = other then fields else store.fields other := by
  simp [setFields, VolatileStore.fields, TreeMap.getD_insert]

theorem get?_insert (store : VolatileStore) (address other : Address) (text : String) :
    (store.insert address text).get? other =
      if address = other then some text else store.get? other := by
  obtain ⟨name, field⟩ := address
  obtain ⟨name', field'⟩ := other
  by_cases hname : name = name' <;> by_cases hfield : field = field' <;>
    simp_all [insert, get?, TreeMap.getElem?_insert]

@[simp] theorem get?_setAvailable (store : VolatileStore) (available : Bool)
    (address : Address) : (store.setAvailable available).get? address = store.get? address :=
  rfl

@[simp] theorem get?_acquire (store : VolatileStore) (name : StoreName) (address : Address) :
    (store.acquire name).2.get? address = store.get? address := by
  unfold acquire
  split <;> rfl

@[simp] theorem Snapshot.get?_insert (handle : Snapshot) (field other : FieldName)
    (text : String) :
    (handle.insert field text).get? other =
      if field = other then some text else handle.get? other := by
  simp [insert, get?, TreeMap.getElem?_insert]

theorem get?_release_of_available {store : VolatileStore} (h : store.available = true)
    (name : StoreName) (handle : Snapshot) (address : Address) :
    (store.release name handle true).2.get? address =
      if name = address.store then handle.get? address.field else store.get? address := by
  simp only [release, h, VolatileStore.get?, Snapshot.get?]
  by_cases hname : name = address.store <;>
    simp_all [VolatileStore.fields, setFields, TreeMap.getD_insert]

@[simp] theorem release_discard (store : VolatileStore) (name : StoreName) (handle : Snapshot) :
    store.release name handle false = (.ok (), store) :=
  rfl

end VolatileStore

end SimIdentity
