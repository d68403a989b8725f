import SimIdentity.Store.Basic

/-!
# Recorded accesses

`Recorded σ` passes every access on to stores of type `σ` and writes down what was asked, what
came of it, and what the stores were before and after. The handles it gives out are numbered
in the order in which they were acquired, so that the record shows which handle an access went
through.
-/

namespace SimIdentity

/-- One access and its outcome. -/
inductive Access where
  /-- A store was acquired, through the handle of that number, or could not be. -/
  | acquired (store : StoreName) (handle? : Option Nat)
  /-- A text was looked up. -/
  | read (handle : Nat) (field : FieldName) (text : Option String)
  /-- A text was written. -/
  | wrote (handle : Nat) (field : FieldName) (text : String)
  /-- A handle was given back, and whether that went well. -/
  | released (handle : Nat) (store : StoreName) (commit succeeded : Bool)
  deriving DecidableEq, Repr

namespace Recorded

/-- An access with what it did to the stores. -/
structure Step (σ : Type) where
  /-- The access. -/
  access : Access
  /-- The stores before it. -/
  before : σ
  /-- The stores after it. -/
  after : σ

/-- A handle with its number. -/
structure Numbered (α : Type) where
  /-- The number. -/
  number : Nat
  /-- The handle of the recorded stores. -/
  handle : α

end Recorded

/-- Stores with a record of all accesses to them. -/
structure Recorded (σ : Type) where
  /-- The stores themselves. -/
  inner : σ
  /-- The accesses so far, the first one at the head. -/
  steps : List (Recorded.Step σ) := []
  /-- How many handles were given out. -/
  handles : Nat := 0

namespace Recorded

variable {σ : Type}

/-- Stores that are recorded from now on. -/
def ofStore (inner : σ) : Recorded σ := { inner }

/-- The accesses so far, without the stores. -/
def accesses (store : Recorded σ) : List Access := store.steps.map (·.access)

/-- Adds an access that led to the given stores. -/
def append (store : Recorded σ) (access : Access) (after : σ) : Recorded σ :=
  { store with
    inner := after
    steps := store.steps ++ [{ access, before := store.inner, after }] }

@[simp] theorem accesses_ofStore (inner : σ) : (ofStore inner).accesses = [] := rfl

@[simp] theorem accesses_append (store : Recorded σ) (access : Access) (after : σ) :
    (store.append access after).accesses = store.accesses ++ [access] := by
  simp [accesses, append]

instance [StringStore σ] : StringStore (Recorded σ) where
  Handle := Numbered (StringStore.Handle σ)
  Error := StringStore.Error σ
  acquire name store :=
    match StringStore.acquire name store.inner with
    | (.ok handle, after) =>
      let number := store.handles
      (.ok { number, handle },
        { store.append (.acquired name (some number)) after with handles := number + 1 })
    | (.error error, after) => (.error error, store.append (.acquired name none) after)
  read handle field store :=
    let (text, after) := StringStore.read handle.handle field store.inner
    (text, store.append (.read handle.number field text) after)
  write handle field text store :=
    let (written, after) := StringStore.write handle.handle field text store.inner
    ({ handle with handle := written }, store.append (.wrote handle.number field text) after)
  release name handle commit store :=
    let (result, after) := StringStore.release name handle.handle commit store.inner
    (result, store.append (.released handle.number name commit result.isOk) after)

end Recorded

end SimIdentity
