import SimIdentity.Proofs.Progress
import SimIdentity.Store.Volatile

/-!
# The cache in a memory

Over a memory that can be reached at all times the cache does what its name says: it finds what
the memory holds, and saving makes the memory hold the text. Nothing else changes, but for the
counters.

Of whole runs, three things are wanted again and again: the memory stays reachable, commits only
add up, and as long as none is added every text is where it was (`Cache.Uses.quiet`).
-/

namespace SimIdentity

/-- A copy of a store shows what the store holds. -/
theorem VolatileStore.get?_copy (store : VolatileStore) (address : Address) :
    ({ fields := store.fields address.store } : Snapshot).get? address.field =
      store.get? address := rfl

/-- What a store holds for the entries of the cache. -/
def VolatileStore.cached (cfg : Config) (store : VolatileStore) (entry : Cache.Entry) :
    Option String :=
  store.get? (entry.address cfg)

namespace Cache

theorem Entry.address_inj {cfg : Config} {entry other : Entry} :
    entry.address cfg = other.address cfg ↔ entry = other := by
  cases entry <;> cases other <;> simp [Entry.address]

variable {store later : VolatileStore} {cfg : Config} {entry : Entry}

/-! ### One access -/

/-- An entry is found exactly if the memory holds a text for it. -/
theorem lookup_of_available (h : store.available = true) :
    lookup cfg entry store =
      ((store.get? (entry.address cfg)).elim .missing .found,
        { store with opened := store.opened + 1 }) := by
  obtain ⟨stores, available, opened, committed⟩ := store
  obtain rfl : available = true := h
  simp only [lookup]
  dsimp only [StringStore.acquire, VolatileStore.acquire, StringStore.read, StringStore.release]
  rw [if_pos rfl]
  dsimp only
  rw [VolatileStore.get?_copy]
  cases VolatileStore.get? _ (entry.address cfg) with
  | none => rfl
  | some text => rfl

/-- Saving an entry writes its text, unless the memory holds it already. -/
theorem save_of_available (h : store.available = true) (text : String) :
    save cfg entry text store =
      if store.get? (entry.address cfg) = some text then
        (.unchanged, { store with opened := store.opened + 1 })
      else
        (.written, { store.insert (entry.address cfg) text with
          opened := store.opened + 1, committed := store.committed + 1 }) := by
  obtain ⟨stores, available, opened, committed⟩ := store
  obtain rfl : available = true := h
  unfold save
  dsimp only [StringStore.acquire, VolatileStore.acquire, StringStore.read]
  rw [if_pos rfl]
  dsimp only
  rw [VolatileStore.get?_copy]
  split
  · rfl
  · rfl

/-- After saving, the memory holds the text, and all else that it held. -/
theorem get?_save (h : store.available = true) (text : String) (address : Address) :
    (save cfg entry text store).2.get? address =
      if entry.address cfg = address then some text else store.get? address := by
  rw [save_of_available h]
  split
  case isTrue heq =>
    show store.get? address = _
    split
    case isTrue haddress => rw [← haddress, heq]
    case isFalse => rfl
  case isFalse => exact VolatileStore.get?_insert store _ address text

/-- Only a text that the memory did not hold costs a commit. -/
theorem committed_save (h : store.available = true) (text : String) :
    (save cfg entry text store).2.committed =
      if store.get? (entry.address cfg) = some text then store.committed
      else store.committed + 1 := by
  rw [save_of_available h]
  split
  · rfl
  · rfl

theorem succeeded_save (h : store.available = true) (text : String) :
    (save cfg entry text store).1.succeeded = true := by
  rw [save_of_available h]
  split
  · rfl
  · rfl

/-- An entry that is found is one that the memory holds. -/
theorem get?_of_lookup_eq_found (h : store.available = true) {text : String}
    (hfound : (lookup cfg entry store).1 = .found text) :
    store.get? (entry.address cfg) = some text := by
  rw [lookup_of_available h] at hfound
  cases hget : store.get? (entry.address cfg) with
  | none =>
    rw [hget] at hfound
    cases hfound
  | some held =>
    rw [hget] at hfound
    cases hfound
    rfl

/-! ### Any number of accesses -/

/-- A memory stays reachable. -/
theorem Uses.available (h : Uses cfg store later) (hstore : store.available = true) :
    later.available = true := by
  induction h with
  | refl => exact hstore
  | lookup entry _ _ ih =>
    rw [lookup_of_available ih]
    exact ih
  | save entry text _ _ _ ih =>
    rw [save_of_available ih]
    split
    · exact ih
    · exact ih

/-- Commits only add up, and without a new one every text is where it was. -/
theorem Uses.quiet (h : Uses cfg store later) (hstore : store.available = true) :
    store.committed ≤ later.committed ∧
      (later.committed = store.committed → ∀ address, later.get? address = store.get? address) := by
  induction h with
  | refl => exact ⟨Nat.le_refl _, fun _ _ => rfl⟩
  | lookup entry _ huses ih =>
    rw [lookup_of_available (huses.available hstore)]
    exact ih
  | @save middle entry text _ _ huses ih =>
    have hmiddle : middle.available = true := huses.available hstore
    rw [committed_save hmiddle]
    split
    case isTrue heq =>
      refine ⟨ih.1, fun hcommitted address => ?_⟩
      rw [get?_save hmiddle, ← ih.2 hcommitted address]
      split
      case isTrue haddress => rw [← haddress, heq]
      case isFalse => rfl
    case isFalse =>
      refine ⟨by omega, fun hcommitted => ?_⟩
      have := ih.1
      omega

end Cache

end SimIdentity
