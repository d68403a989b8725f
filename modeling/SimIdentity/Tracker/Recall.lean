import SimIdentity.Tracker.Naming

/-!
# Recalling a card

A card that was seen before is recognized by its serial number, long before it reports anything
else: the cache tells its subscription, and for the subscription its name. What the cache tells
takes the place of what was known before, except for a name that the card itself reported. That
one stays, and the cache is made to agree with it.
-/

namespace SimIdentity.Run

variable {σ : Type} [StringStore σ]

/-- Takes over the subscription the cache holds for the card. -/
def recallImsi (cfg : Config) (modem : Modem) (iccid : String) (run : Run σ) : Run σ :=
  match run.lookup cfg (.imsiOf iccid) with
  | (.found imsi, run) =>
    if imsi = "" ∨ run.identity.imsi = some imsi then
      run
    else
      let run := match known run.identity.imsi with
        | some old => { run.note (.imsiReplaced old imsi) with imsiDirty := true }
        | none => run
      { run.note (.imsiRecalled iccid imsi) with identity.imsi := some imsi }
        |>.persistImsi cfg
        |>.refreshFallback modem
        |>.queue .imsi
  | (_, run) => run

/-- Takes over the name the cache holds for the subscription, unless the card has a name of its
own. -/
def recallName (cfg : Config) (run : Run σ) : Run σ :=
  match known run.identity.imsi with
  | none => run
  | some imsi =>
    match run.lookup cfg (.nameOf imsi) with
    | (.found name, run) =>
      if name = "" ∨ run.cachedName = some name then
        run
      else if known run.cardName ≠ none then
        { run.note (.nameOverruled name imsi) with nameDirty := true }.persistName cfg
      else
        let run := match known run.cachedName with
          | some old => { run.note (.nameReplaced old name) with nameDirty := true }
          | none => run
        { run.note (.nameRecalled imsi name) with cachedName := some name }
          |>.persistName cfg
          |>.refreshPublicName
    | (_, run) => run

/-- Takes over what the cache knows about the card. -/
def recallCard (cfg : Config) (modem : Modem) (iccid : String) (run : Run σ) : Run σ :=
  run.recallImsi cfg modem iccid |>.recallName cfg

end SimIdentity.Run
