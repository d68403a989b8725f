import SimIdentity.Proofs.Access
import SimIdentity.Proofs.Progress
import SimIdentity.Store.Unreliable

/-!
# How a tracker uses its stores

The stores belong to others as well, and their handles are dear. So a tracker must not keep a
handle that it was given, nor write blindly, nor have a handle committed that it has not written
to, however the stores answer.

`Cache.Protocol` is the language of the accesses that keep to this, with one production for each
way in which an access of the cache can go. The number that it counts up is the number of the next
handle, so each handle is used in one place only.

## What is proved

`accesses_keep_protocol`: whatever the stores answer, all the accesses that a tracker makes in its
life, one after the other, are in this language.
-/

namespace SimIdentity

variable {σ : Type} [StringStore σ] {cfg : Config}

namespace Cache

/-- The accesses that keep to the protocol, with the number of handles that were given out. -/
inductive Protocol (cfg : Config) : List Access → Nat → Prop where
  /-- Nothing was accessed. -/
  | none : Protocol cfg [] 0
  /-- At last a store could not be acquired. -/
  | refused {accesses : List Access} {handles : Nat} (entry : Entry) :
      entry.key ≠ "" → Protocol cfg accesses handles →
        Protocol cfg (accesses ++ [.acquired (entry.address cfg).store none]) handles
  /-- At last a store was acquired, one text was read, and the handle was given back as it was. -/
  | read {accesses : List Access} {handles : Nat} (entry : Entry) (found : Option String)
      (succeeded : Bool) :
      entry.key ≠ "" → Protocol cfg accesses handles →
        Protocol cfg
          (accesses ++
            [.acquired (entry.address cfg).store (some handles),
              .read handles (entry.address cfg).field found,
              .released handles (entry.address cfg).store false succeeded])
          (handles + 1)
  /-- At last a store was acquired, one text was read, another one was written in its place, and
  the handle was given back to be kept. -/
  | wrote {accesses : List Access} {handles : Nat} (entry : Entry) (found : Option String)
      (text : String) (succeeded : Bool) :
      entry.key ≠ "" → text ≠ "" → found ≠ some text → Protocol cfg accesses handles →
        Protocol cfg
          (accesses ++
            [.acquired (entry.address cfg).store (some handles),
              .read handles (entry.address cfg).field found,
              .wrote handles (entry.address cfg).field text,
              .released handles (entry.address cfg).store true succeeded])
          (handles + 1)

/-- The record keeps to the protocol. -/
def KeepsProtocol (cfg : Config) (store : Recorded σ) : Prop :=
  Protocol cfg store.accesses store.handles

namespace KeepsProtocol

variable {store later : Recorded σ}

theorem lookup (h : KeepsProtocol cfg store) (entry : Entry) (hkey : entry.key ≠ "") :
    KeepsProtocol cfg (Cache.lookup cfg entry store).2 := by
  rcases Recorded.acquire_cases (entry.address cfg).store store with
    ⟨error, opened, hacquire, -, hopened, hhandles⟩ |
      ⟨handle, opened, hacquire, -, hnumber, hopened, hhandles⟩
  · have hrefused := Protocol.refused entry hkey h
    rw [lookup_of_refused hacquire]
    simpa [KeepsProtocol, Recorded.accesses, hopened, hhandles] using hrefused
  · obtain ⟨found, seen, hread, -, hseen, hhandles'⟩ :=
      Recorded.read_eq handle (entry.address cfg).field opened
    obtain ⟨result, closed, hrelease, -, hclosed, hhandles''⟩ :=
      Recorded.release_eq (entry.address cfg).store handle false seen
    have hfound := Protocol.read entry found result.isOk hkey h
    rw [lookup_of_acquired hacquire hread hrelease]
    simpa [KeepsProtocol, Recorded.accesses, hopened, hseen, hclosed, hnumber, hhandles,
      hhandles', hhandles''] using hfound

theorem save (h : KeepsProtocol cfg store) (entry : Entry) {text : String}
    (hkey : entry.key ≠ "") (htext : text ≠ "") :
    KeepsProtocol cfg (Cache.save cfg entry text store).2 := by
  rcases Recorded.acquire_cases (entry.address cfg).store store with
    ⟨error, opened, hacquire, -, hopened, hhandles⟩ |
      ⟨handle, opened, hacquire, -, hnumber, hopened, hhandles⟩
  · have hrefused := Protocol.refused entry hkey h
    rw [save_of_refused hacquire]
    simpa [KeepsProtocol, Recorded.accesses, hopened, hhandles] using hrefused
  · obtain ⟨found, seen, hread, -, hseen, hhandles'⟩ :=
      Recorded.read_eq handle (entry.address cfg).field opened
    by_cases hfound : found = some text
    · subst hfound
      obtain ⟨result, closed, hrelease, -, hclosed, hhandles''⟩ :=
        Recorded.release_eq (entry.address cfg).store handle false seen
      have hheld := Protocol.read entry (some text) result.isOk hkey h
      rw [save_of_held hacquire hread hrelease]
      simpa [KeepsProtocol, Recorded.accesses, hopened, hseen, hclosed, hnumber, hhandles,
        hhandles', hhandles''] using hheld
    · obtain ⟨written, changed, hwrite, -, hnumber', hchanged, hhandles''⟩ :=
        Recorded.write_eq handle (entry.address cfg).field text seen
      obtain ⟨result, closed, hrelease, -, hclosed, hhandles'''⟩ :=
        Recorded.release_eq (entry.address cfg).store written true changed
      have hwrote := Protocol.wrote entry found text result.isOk hkey htext hfound h
      rw [save_of_not_held hacquire hread hfound hwrite hrelease]
      simpa [KeepsProtocol, Recorded.accesses, hopened, hseen, hchanged, hclosed, hnumber,
        hnumber', hhandles, hhandles', hhandles'', hhandles'''] using hwrote

theorem uses (h : KeepsProtocol cfg store) (huses : Uses cfg store later) :
    KeepsProtocol cfg later := by
  induction huses with
  | refl => exact h
  | lookup entry hkey _ ih => exact ih.lookup entry hkey
  | save entry text hkey htext _ ih => exact ih.save entry hkey htext

end KeepsProtocol

end Cache

/-- Over any number of calls a tracker uses its stores through the cache. -/
theorem Run.uses_performAll (cfg : Config) (calls : List (Modem × Call)) (run : Run σ) :
    Cache.Uses cfg run.store (run.performAll cfg calls).store := by
  induction calls generalizing run with
  | nil => exact .refl
  | cons head rest ih =>
    obtain ⟨modem, call⟩ := head
    rw [performAll_cons]
    exact (uses_perform cfg modem call run).trans (ih _)

/-- **The accesses of a tracker keep to the protocol.** Over any stores, and for any names in the
configuration, what a tracker asks of them from its start on is a row of accesses of the cache.
Each of them acquires the store of an entry that has a key, and either this fails, or the text of
the entry is read through the handle that was acquired. Then the handle is given back to the store
it came from: as it is, or with another text written in the entry's place, which is not empty, and
only then to be kept. -/
theorem accesses_keep_protocol (cfg : Config) (modem : Modem) (store : σ)
    (calls : List (Modem × Call)) :
    let run := (Run.start cfg modem (Recorded.ofStore store)).performAll cfg calls
    Cache.Protocol cfg run.store.accesses run.store.handles := by
  have hblank : Cache.KeepsProtocol cfg (Recorded.ofStore store) := Cache.Protocol.none
  have hstart := hblank.uses (Run.uses_start cfg modem (Recorded.ofStore store))
  exact hstart.uses (Run.uses_performAll cfg calls _)

/-- A start over empty stores, the first of which cannot be acquired: all three forms of an access
occur. -/
example :
    (Run.start {} { path := "/ril_0", iccid := some "8901", imsi := some "00101" }
      (Recorded.ofStore { openPlan := [false] : UnreliableStore })).store.accesses =
      [.acquired ⟨none, "iccidmap"⟩ none,
        .acquired ⟨none, "iccidmap"⟩ (some 0), .read 0 ⟨"imsi", "8901"⟩ none,
        .wrote 0 ⟨"imsi", "8901"⟩ "00101", .released 0 ⟨none, "iccidmap"⟩ true true,
        .acquired ⟨some "00101", "cache"⟩ (some 1), .read 1 ⟨"sim", "spn"⟩ none,
        .released 1 ⟨some "00101", "cache"⟩ false true] := by
  decide +kernel

end SimIdentity
