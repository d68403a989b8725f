import SimIdentity.Tracker.Recall

/-!
# Observing the modem

Each function here compares one thing the modem shows with what is known, and takes it over if
it is new. A serial number that is gone takes everything with it that was known about the card.
A subscription or a name that is missing says nothing, for a card may be slow to tell them.
-/

namespace SimIdentity.Run

variable {σ : Type}

/-- Forgets the card: its subscription, its names and its fallback name. -/
def forgetCard (run : Run σ) : Run σ :=
  let run := run.note .iccidLost
  let run := if run.identity.imsi = none then run else run.queue .imsi
  { run with identity.imsi := none, cardName := none, cachedName := none, fallback := ∅ }
    |>.refreshPublicName

variable [StringStore σ]

/-- Observes the serial number. -/
def observeIccid (cfg : Config) (modem : Modem) (run : Run σ) : Run σ :=
  let iccid := known modem.iccid
  if run.identity.iccid = iccid then
    run
  else
    let run := { run with identity.iccid := iccid }.queue .iccid
    match iccid with
    | some iccid => run.recallCard cfg modem iccid
    | none => run.forgetCard

/-- Takes over the subscription that the modem reports. -/
def adoptImsi (cfg : Config) (imsi : String) (run : Run σ) : Run σ :=
  if run.identity.imsi = some imsi then
    run
  else
    { run.note (.imsiAdopted imsi) with identity.imsi := some imsi, imsiDirty := true }
      |>.persistImsi cfg
      |>.recallName cfg
      |>.persistName cfg
      |>.queue .imsi

/-- Observes the subscription, and the codes of its home network, which may have come with
it. -/
def observeImsi (cfg : Config) (modem : Modem) (run : Run σ) : Run σ :=
  let run := match known modem.imsi with
    | some imsi => run.adoptImsi cfg imsi
    | none => run
  run.refreshFallback modem

/-- Observes the name on the card. -/
def observeCardName (cfg : Config) (modem : Modem) (run : Run σ) : Run σ :=
  match known modem.spn with
  | some name => run.adoptCardName cfg name
  | none => run

/-- Observes whether a network is attached, and if so, what it is called. -/
def observeNetwork (cfg : Config) (modem : Modem) (run : Run σ) : Run σ :=
  if modem.network.isSome then
    let run := if run.attached then run else { run.note .attached with attached := true }
    run.adoptHomeOperator cfg modem
  else if run.attached then
    { run.note .detached with attached := false }
  else
    run

/-- Observes everything the modem shows. -/
def observeAll (cfg : Config) (modem : Modem) (run : Run σ) : Run σ :=
  run.observeIccid cfg modem
    |>.observeNetwork cfg modem
    |>.observeImsi cfg modem
    |>.observeCardName cfg modem
    |>.adoptHomeOperator cfg modem

end SimIdentity.Run
