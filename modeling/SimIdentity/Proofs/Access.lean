import SimIdentity.Cache
import SimIdentity.Store.Recorded

/-!
# The accesses of the cache, one by one

To look an entry up, or to save one, takes three or four accesses, and each of them may go wrong.
This module takes the two apart. `Cache.lookup_of_acquired` and its kin say what comes of them,
given what comes of each access, over any stores. `Recorded.acquire_cases` and its kin say, for
each access to recorded stores, what is written down about it.
-/

namespace SimIdentity

variable {σ : Type} [StringStore σ]

/-! ### What looking up and saving come to -/

namespace Cache

variable {cfg : Config} {entry : Entry} {text : String} {store opened seen changed closed : σ}
  {handle written : StringStore.Handle σ} {found : Option String} {error : StringStore.Error σ}
  {result : Except (StringStore.Error σ) Unit}

theorem lookup_of_refused
    (hacquire : StringStore.acquire (entry.address cfg).store store = (.error error, opened)) :
    lookup cfg entry store = (.unreadable, opened) := by
  simp only [lookup]
  rw [hacquire]

/-- How the handle is given back makes no difference to what was found. -/
theorem lookup_of_acquired
    (hacquire : StringStore.acquire (entry.address cfg).store store = (.ok handle, opened))
    (hread : StringStore.read handle (entry.address cfg).field opened = (found, seen))
    (hrelease : StringStore.release (entry.address cfg).store handle false seen =
      (result, closed)) :
    lookup cfg entry store = (found.elim .missing .found, closed) := by
  simp only [lookup]
  rw [hacquire]
  dsimp only
  rw [hread]
  dsimp only
  rw [hrelease]
  cases found with
  | none => rfl
  | some text => rfl

theorem save_of_refused
    (hacquire : StringStore.acquire (entry.address cfg).store store = (.error error, opened)) :
    save cfg entry text store = (.unopened, opened) := by
  simp only [save]
  rw [hacquire]

theorem save_of_held
    (hacquire : StringStore.acquire (entry.address cfg).store store = (.ok handle, opened))
    (hread : StringStore.read handle (entry.address cfg).field opened = (some text, seen))
    (hrelease : StringStore.release (entry.address cfg).store handle false seen =
      (result, closed)) :
    save cfg entry text store = (.unchanged, closed) := by
  simp only [save]
  rw [hacquire]
  dsimp only
  rw [hread]
  dsimp only
  rw [if_pos rfl, hrelease]

theorem save_of_not_held
    (hacquire : StringStore.acquire (entry.address cfg).store store = (.ok handle, opened))
    (hread : StringStore.read handle (entry.address cfg).field opened = (found, seen))
    (hfound : found ≠ some text)
    (hwrite : StringStore.write handle (entry.address cfg).field text seen = (written, changed))
    (hrelease : StringStore.release (entry.address cfg).store written true changed =
      (result, closed)) :
    save cfg entry text store = (if result.isOk then .written else .uncommitted, closed) := by
  simp only [save]
  rw [hacquire]
  dsimp only
  rw [hread]
  dsimp only
  rw [if_neg hfound, hwrite]
  dsimp only
  rw [hrelease]
  cases result with
  | error error => rfl
  | ok => rfl

end Cache

/-! ### What is written down about an access -/

namespace Recorded

/-- A handle takes the number of handles that were given out before it. -/
theorem acquire_cases (name : StoreName) (store : Recorded σ) :
    (∃ error opened, StringStore.acquire name store = (.error error, opened) ∧
        StringStore.acquire name store.inner = (.error error, opened.inner) ∧
        opened.steps = store.steps ++ [⟨.acquired name none, store.inner, opened.inner⟩] ∧
        opened.handles = store.handles) ∨
      ∃ handle opened, StringStore.acquire name store = (.ok handle, opened) ∧
        StringStore.acquire name store.inner = (.ok handle.handle, opened.inner) ∧
        handle.number = store.handles ∧
        opened.steps =
          store.steps ++ [⟨.acquired name (some store.handles), store.inner, opened.inner⟩] ∧
        opened.handles = store.handles + 1 := by
  dsimp only [StringStore.acquire]
  cases StringStore.acquire name store.inner with | mk result after =>
  cases result with
  | error error => exact .inl ⟨error, _, rfl, rfl, rfl, rfl⟩
  | ok handle => exact .inr ⟨_, _, rfl, rfl, rfl, rfl, rfl⟩

theorem read_eq (handle : Numbered (StringStore.Handle σ)) (field : FieldName)
    (store : Recorded σ) :
    ∃ found seen, StringStore.read handle field store = (found, seen) ∧
      StringStore.read handle.handle field store.inner = (found, seen.inner) ∧
      seen.steps = store.steps ++ [⟨.read handle.number field found, store.inner, seen.inner⟩] ∧
      seen.handles = store.handles :=
  ⟨_, _, rfl, rfl, rfl, rfl⟩

theorem write_eq (handle : Numbered (StringStore.Handle σ)) (field : FieldName) (text : String)
    (store : Recorded σ) :
    ∃ (written : Numbered (StringStore.Handle σ)) (changed : Recorded σ),
      StringStore.write handle field text store = (written, changed) ∧
      StringStore.write handle.handle field text store.inner = (written.handle, changed.inner) ∧
      written.number = handle.number ∧
      changed.steps =
        store.steps ++ [⟨.wrote handle.number field text, store.inner, changed.inner⟩] ∧
      changed.handles = store.handles :=
  ⟨_, _, rfl, rfl, rfl, rfl, rfl⟩

theorem release_eq (name : StoreName) (handle : Numbered (StringStore.Handle σ)) (commit : Bool)
    (store : Recorded σ) :
    ∃ result closed, StringStore.release name handle commit store = (result, closed) ∧
      StringStore.release name handle.handle commit store.inner = (result, closed.inner) ∧
      closed.steps =
        store.steps ++
          [⟨.released handle.number name commit result.isOk, store.inner, closed.inner⟩] ∧
      closed.handles = store.handles :=
  ⟨_, _, rfl, rfl, rfl, rfl⟩

/-- To save a text comes to the same as without a record. -/
theorem save_eq (cfg : Config) (entry : Cache.Entry) (text : String) (store : Recorded σ) :
    (Cache.save cfg entry text store).1 = (Cache.save cfg entry text store.inner).1 ∧
      (Cache.save cfg entry text store).2.inner = (Cache.save cfg entry text store.inner).2 := by
  rcases acquire_cases (entry.address cfg).store store with
    ⟨error, opened, hacquire, hinner, -⟩ | ⟨handle, opened, hacquire, hinner, -⟩
  · rw [Cache.save_of_refused hacquire, Cache.save_of_refused hinner]
    exact ⟨rfl, rfl⟩
  obtain ⟨found, seen, hread, hseen, -⟩ := read_eq handle (entry.address cfg).field opened
  by_cases hheld : found = some text
  · subst hheld
    obtain ⟨result, closed, hrelease, hclosed, -⟩ :=
      release_eq (entry.address cfg).store handle false seen
    rw [Cache.save_of_held hacquire hread hrelease, Cache.save_of_held hinner hseen hclosed]
    exact ⟨rfl, rfl⟩
  · obtain ⟨written, changed, hwrite, hchanged, -⟩ :=
      write_eq handle (entry.address cfg).field text seen
    obtain ⟨result, closed, hrelease, hclosed, -⟩ :=
      release_eq (entry.address cfg).store written true changed
    rw [Cache.save_of_not_held hacquire hread hheld hwrite hrelease,
      Cache.save_of_not_held hinner hseen hheld hchanged hclosed]
    exact ⟨rfl, rfl⟩

end Recorded

end SimIdentity
