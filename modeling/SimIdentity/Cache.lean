import SimIdentity.Config
import SimIdentity.Store.Basic

/-!
# The cache

Two things are remembered about a card after it is gone: which subscription it carries, found
under its serial number in one global store, and the provider name that was last known for
that subscription, found in a store private to it.

Stores wear out, so a text is only written if the store holds another one: `Cache.save` reads
before it writes, and gives the handle back without changes if nothing has to change. Every
handle that is acquired is given back, to the store it was acquired from.
-/

namespace SimIdentity.Cache

/-- What can be remembered. -/
inductive Entry where
  /-- The subscription on the card of that serial number. -/
  | imsiOf (iccid : String)
  /-- The provider name last known for that subscription. -/
  | nameOf (imsi : String)
  deriving DecidableEq, Repr

/-- Where an entry is kept. -/
def Entry.address (cfg : Config) : Entry → Address
  | imsiOf iccid => ⟨⟨none, cfg.imsiStore⟩, ⟨cfg.imsiGroup, iccid⟩⟩
  | nameOf imsi => ⟨⟨some imsi, cfg.nameStore⟩, ⟨cfg.nameGroup, cfg.nameField⟩⟩

/-- What came of looking an entry up. -/
inductive Lookup where
  /-- The store holds this text for it. -/
  | found (text : String)
  /-- The store holds nothing for it. -/
  | missing
  /-- The store could not be acquired. -/
  | unreadable
  deriving DecidableEq, Repr

/-- What came of saving an entry. -/
inductive Saving where
  /-- The new text was written. -/
  | written
  /-- The store already held the text. -/
  | unchanged
  /-- The store could not be acquired. -/
  | unopened
  /-- The new text could not be kept. -/
  | uncommitted
  deriving DecidableEq, Repr

/-- Whether the store now holds the text. -/
def Saving.succeeded : Saving → Bool
  | written => true
  | unchanged => true
  | unopened => false
  | uncommitted => false

variable {σ : Type} [StringStore σ]

/-- Looks an entry up. -/
def lookup (cfg : Config) (entry : Entry) (store : σ) : Lookup × σ :=
  let address := entry.address cfg
  match StringStore.acquire address.store store with
  | (.error _, store) => (.unreadable, store)
  | (.ok handle, store) =>
    let (text?, store) := StringStore.read handle address.field store
    let (_, store) := StringStore.release address.store handle false store
    match text? with
    | some text => (.found text, store)
    | none => (.missing, store)

/-- Saves a text for an entry. -/
def save (cfg : Config) (entry : Entry) (text : String) (store : σ) : Saving × σ :=
  let address := entry.address cfg
  match StringStore.acquire address.store store with
  | (.error _, store) => (.unopened, store)
  | (.ok handle, store) =>
    let (text?, store) := StringStore.read handle address.field store
    if text? = some text then
      let (_, store) := StringStore.release address.store handle false store
      (.unchanged, store)
    else
      let (handle, store) := StringStore.write handle address.field text store
      match StringStore.release address.store handle true store with
      | (.ok _, store) => (.written, store)
      | (.error _, store) => (.uncommitted, store)

end SimIdentity.Cache
