import SimIdentity.Cache
import SimIdentity.Modem
import SimIdentity.Signal

/-!
# Knowledge and trail

A tracker's `Knowledge` is all it remembers between two reports of its modem. While it works it
leaves a trail: every step worth telling is an `Event`, kept together with the knowledge at
that moment. The trail is what the log is printed from, and what statements about the history
of a tracker are made of.
-/

namespace SimIdentity

/-- What a tracker knows about the card in its slot, and what it still has to do about it. -/
structure Knowledge where
  /-- What subscribers see. -/
  identity : Identity
  /-- The provider name the card reported. -/
  cardName : Option String := none
  /-- The provider name the cache holds, or is about to hold, for the subscription. -/
  cachedName : Option String := none
  /-- The name to show while nothing better is known. -/
  fallback : FallbackName := ∅
  /-- Whether a network is attached. -/
  attached : Bool := false
  /-- Whether the card's subscription may differ from the cached one. -/
  imsiDirty : Bool := false
  /-- Whether the subscription's name may differ from the cached one. -/
  nameDirty : Bool := false
  /-- Whether a write failed that has not been tried again since. -/
  writeFailed : Bool := false
  /-- The signals that are due. -/
  due : SignalSet := ∅
  deriving DecidableEq, Repr

/-- Whether something still has to be written to the cache. -/
def Knowledge.hasPendingWrites (knowledge : Knowledge) : Bool :=
  knowledge.nameDirty || knowledge.imsiDirty

/-- A step worth telling. -/
inductive Event where
  /-- Tracking began. -/
  | started
  /-- Tracking ended. -/
  | released
  /-- So many reports of the modem were lost. -/
  | lagged (count : Nat)
  /-- Writes that failed earlier are tried again. -/
  | retrying
  /-- An entry of the cache was looked up. -/
  | lookedUp (entry : Cache.Entry) (outcome : Cache.Lookup)
  /-- An entry of the cache was to be saved. -/
  | saved (entry : Cache.Entry) (text : String) (outcome : Cache.Saving)
  /-- The modem reported a serial number, or none. -/
  | iccidReported (iccid : Option String)
  /-- The card is gone. -/
  | iccidLost
  /-- The cache knows another subscription for the card than the one tracked so far. -/
  | imsiReplaced (old new : String)
  /-- The subscription was taken from the cache. -/
  | imsiRecalled (iccid imsi : String)
  /-- The subscription was taken from the modem. -/
  | imsiAdopted (imsi : String)
  /-- The cached name gives way to the one on the card. -/
  | nameOverruled (name imsi : String)
  /-- The cache knows another name for the subscription than the one known so far. -/
  | nameReplaced (old new : String)
  /-- The name was taken from the cache. -/
  | nameRecalled (imsi name : String)
  /-- A name was found that the cache has to hold. -/
  | nameAdopted (name : String)
  /-- The card reported a name. -/
  | cardNameAdopted (name : String)
  /-- The fallback name changed. -/
  | fallbackChanged (name : FallbackName)
  /-- The name to show changed. -/
  | publicNameChanged (name : Option String)
  /-- A network was attached. -/
  | attached
  /-- The network was detached. -/
  | detached
  /-- The serving network is the home network and has this name. -/
  | homeNetwork (name : String)
  deriving DecidableEq, Repr

/-- An event in its context. -/
structure TrailEntry where
  /-- What was known when it happened. -/
  context : Knowledge
  /-- What happened. -/
  event : Event
  deriving DecidableEq, Repr

end SimIdentity
