import SimIdentity.Tracker.Basic

/-!
# Keeping the cache in step

What is known about a card is written to the cache as soon as both sides of the entry are
known. Until it has been written, or been found there, the entry counts as dirty. A write that
fails leaves it dirty, and is tried again when the modem reports next.
-/

namespace SimIdentity.Run

variable {σ : Type} [StringStore σ]

/-- Saves the card's subscription, if it is dirty and known. -/
def persistImsi (cfg : Config) (run : Run σ) : Run σ :=
  match run.imsiDirty, known run.identity.iccid, known run.identity.imsi with
  | true, some iccid, some imsi =>
    let (outcome, run) := run.save cfg (.imsiOf iccid) imsi
    if outcome.succeeded then { run with imsiDirty := false }
    else { run with writeFailed := true }
  | _, _, _ => run

/-- Saves the subscription's name, if it is dirty and known. -/
def persistName (cfg : Config) (run : Run σ) : Run σ :=
  match run.nameDirty, known run.identity.imsi, known run.cachedName with
  | true, some imsi, some name =>
    let (outcome, run) := run.save cfg (.nameOf imsi) name
    if outcome.succeeded then { run with nameDirty := false }
    else { run with writeFailed := true }
  | _, _, _ => run

/-- Tries the writes again that failed earlier. -/
def retryWrites (cfg : Config) (run : Run σ) : Run σ :=
  if run.writeFailed then
    { run with writeFailed := false }.note .retrying |>.persistImsi cfg |>.persistName cfg
  else
    run

end SimIdentity.Run
