import SimIdentity.Tracker.Persistence

/-!
# Choosing the name

Names come from three sources: the card, the cache and the fallback. Whenever one of them
changes, the name to show is chosen anew. A name the card reports also becomes the cached one,
and so does the operator's name while the home network is the serving one, unless the card has
a name of its own.
-/

namespace SimIdentity.Run

variable {σ : Type}

/-- Chooses the name to show anew. -/
def refreshPublicName (run : Run σ) : Run σ :=
  let name := publicName? run.cardName run.cachedName run.fallback
  if run.identity.spn = name then
    run
  else
    { run.note (.publicNameChanged name) with identity.spn := name }.queue .spn

/-- Takes over the fallback name that the modem gives now. -/
def refreshFallback (modem : Modem) (run : Run σ) : Run σ :=
  let fallback := modem.fallbackName
  if run.fallback = fallback then
    run
  else
    { run.note (.fallbackChanged fallback) with fallback }.refreshPublicName

variable [StringStore σ]

/-- Takes over a name for the cache. -/
def adoptName (cfg : Config) (name : String) (run : Run σ) : Run σ :=
  if run.cachedName = some name then
    run
  else
    { run.note (.nameAdopted name) with cachedName := some name, nameDirty := true }
      |>.persistName cfg
      |>.refreshPublicName

/-- Takes over the name that the card has. -/
def adoptCardName (cfg : Config) (name : String) (run : Run σ) : Run σ :=
  if run.cardName = some name then
    run
  else
    { run.note (.cardNameAdopted name) with cardName := some name, nameDirty := true }
      |>.adoptName cfg name
      |>.persistName cfg
      |>.refreshPublicName

/-- Takes over the operator's name, if the serving network is the card's home network and the
card has no name of its own. -/
def adoptHomeOperator (cfg : Config) (modem : Modem) (run : Run σ) : Run σ :=
  match modem.homeOperator? with
  | none => run
  | some name =>
    let run := run.note (.homeNetwork name)
    if known run.cardName = none then run.adoptName cfg name else run

end SimIdentity.Run
