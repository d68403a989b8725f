import SimIdentity.Store.Volatile

/-!
# Stores that fail by plan

An `UnreliableStore` is a memory whose accesses fail at chosen moments: one plan decides about
every attempt to acquire a store, another one about every attempt to keep changes. An attempt
that the plan refuses fails as if the memory were switched off at that moment. Since the plans
are arbitrary, a statement about all unreliable stores is one about all patterns of failure.
-/

namespace SimIdentity

/-- Which of the next attempts are let through. Attempts beyond its end all are. -/
abbrev Plan := List Bool

namespace Plan

/-- Whether the next attempt is let through. -/
def allows (plan : Plan) : Bool := plan.head?.getD true

end Plan

/-- A memory with plans for its failures. -/
structure UnreliableStore where
  /-- The stores themselves. -/
  memory : VolatileStore := ∅
  /-- The plan for acquiring stores. -/
  openPlan : Plan := []
  /-- The plan for keeping changes. -/
  commitPlan : Plan := []

namespace UnreliableStore

/-- Acquires a store, which uses up one step of the plan for it. -/
def acquire (name : StoreName) (store : UnreliableStore) :
    Except VolatileStore.Error VolatileStore.Snapshot × UnreliableStore :=
  let rest := { store with openPlan := store.openPlan.tail }
  if store.openPlan.allows then
    let (result, memory) := store.memory.acquire name
    (result, { rest with memory })
  else
    (.error .unavailable, rest)

/-- Takes a handle back. Keeping its changes uses up one step of the plan for that. -/
def release (name : StoreName) (handle : VolatileStore.Snapshot) (commit : Bool)
    (store : UnreliableStore) : Except VolatileStore.Error Unit × UnreliableStore :=
  if commit then
    let rest := { store with commitPlan := store.commitPlan.tail }
    if store.commitPlan.allows then
      let (result, memory) := store.memory.release name handle true
      (result, { rest with memory })
    else
      (.error .unavailable, rest)
  else
    (.ok (), store)

instance : StringStore UnreliableStore where
  Handle := VolatileStore.Snapshot
  Error := VolatileStore.Error
  acquire := acquire
  read handle field store := (handle.get? field, store)
  write handle field text store := (handle.insert field text, store)
  release := release

end UnreliableStore

end SimIdentity
