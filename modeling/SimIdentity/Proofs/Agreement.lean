import Mathlib.Data.Option.Basic
import SimIdentity.Proofs.Repetition

/-!
# Agreement with the modem

When a tracker has read everything, what it knows is what the modem shows. While it reads, that may
be otherwise for a while: the cache tells a subscription and a name for the serial number, each may
take the place of a better one, and a card that is gone takes all of it along. The order of reading
settles who has the last word. The subscription and the card's name are looked at after the cache was
asked, and the operator's name last of all, so what the modem shows prevails over what the cache
tells, and the stores cannot spoil that by failing.

## What the modem shows

`Modem.Tells` and `Modem.ServedAtHome` say in one pattern each what has to be there for a fallback
name and for the operator's name, in place of the chain of conditions by which these are computed.

## What is proved

`tracker_agrees_with_modem`: `Knowledge.Agrees` holds after the start, and after everything was read
again in a reachable run. Where the modem shows no subscription or no name, it is silent about them:
what was known, or what the cache told, stays.
-/

namespace SimIdentity

/-! ### What the modem shows -/

theorem RegistrationStatus.isRegistered_iff {status : RegistrationStatus} :
    status.isRegistered = true ↔ status = .registered ∨ status = .roaming := by
  simp [isRegistered]

namespace Modem

/-- The card is ready, and these are the codes of its home network. -/
def Tells (modem : Modem) (mcc mnc : String) : Prop :=
  modem.card = some { state := .ready, mcc := some mcc, mnc := some mnc }

/-- The modem is registered or roaming in the home network of a ready card, and this is the name of
its operator. -/
inductive ServedAtHome (modem : Modem) : String → Prop where
  /-- The codes are the same on both sides, and neither they nor the name are empty. -/
  | intro {mcc mnc name : String} {status : RegistrationStatus} (tells : modem.Tells mcc mnc)
      (network_eq :
        modem.network = some { status, mcc := some mcc, mnc := some mnc, name := some name })
      (status_eq : status = .registered ∨ status = .roaming) (mcc_ne : mcc ≠ "") (mnc_ne : mnc ≠ "")
      (name_ne : name ≠ "") : ServedAtHome modem name

variable {modem : Modem} {mcc mnc name : String}

theorem fallbackName_of_tells (h : modem.Tells mcc mnc) :
    modem.fallbackName = .ofCodes mcc mnc := by
  simp only [fallbackName]
  rw [show modem.card = _ from h]

theorem fallbackName_of_not_tells (h : ∀ mcc mnc, ¬ modem.Tells mcc mnc) :
    modem.fallbackName = ∅ := by
  simp only [fallbackName]
  split
  case h_1 mcc mnc hcard => exact absurd hcard (h mcc mnc)
  case h_2 => rfl

/-- The operator's name is taken under these conditions, and no others. -/
theorem homeOperator?_eq_some_iff : modem.homeOperator? = some name ↔ modem.ServedAtHome name := by
  constructor
  · intro h
    obtain ⟨⟨state, cardMcc, cardMnc⟩, hcard, h⟩ := Option.bind_eq_some_iff.1 h
    obtain ⟨⟨status, networkMcc, networkMnc, operator⟩, hnetwork, h⟩ :=
      Option.bind_eq_some_iff.1 h
    obtain ⟨_, hguard, h⟩ := Option.bind_eq_some_iff.1 h
    obtain ⟨hready, hstatus⟩ := (Option.guard_eq_some' _).1 hguard
    obtain ⟨mcc, hmcc, h⟩ := Option.bind_eq_some_iff.1 h
    obtain ⟨mnc, hmnc, h⟩ := Option.bind_eq_some_iff.1 h
    obtain ⟨mcc', hmcc', h⟩ := Option.bind_eq_some_iff.1 h
    obtain ⟨mnc', hmnc', h⟩ := Option.bind_eq_some_iff.1 h
    obtain ⟨name, hname, h⟩ := Option.bind_eq_some_iff.1 h
    obtain ⟨_, hcodes, h⟩ := Option.bind_eq_some_iff.1 h
    cases h
    obtain ⟨rfl, rfl⟩ := (Option.guard_eq_some' _).1 hcodes
    obtain ⟨rfl, hmcc_ne⟩ := known_eq_some_iff.1 hmcc
    obtain ⟨rfl, hmnc_ne⟩ := known_eq_some_iff.1 hmnc
    obtain ⟨rfl, -⟩ := known_eq_some_iff.1 hmcc'
    obtain ⟨rfl, -⟩ := known_eq_some_iff.1 hmnc'
    obtain ⟨rfl, hname_ne⟩ := known_eq_some_iff.1 hname
    cases hready
    exact .intro hcard hnetwork (RegistrationStatus.isRegistered_iff.1 hstatus) hmcc_ne hmnc_ne
      hname_ne
  · rintro ⟨hcard, hnetwork, hstatus, hmcc, hmnc, hname⟩
    refine Option.bind_eq_some_iff.2 ⟨_, hcard, Option.bind_eq_some_iff.2 ⟨_, hnetwork, ?_⟩⟩
    have hregistered := RegistrationStatus.isRegistered_iff.2 hstatus
    refine Option.bind_eq_some_iff.2 ⟨(), (Option.guard_eq_some' _).2 ⟨rfl, hregistered⟩, ?_⟩
    refine Option.bind_eq_some_iff.2 ⟨_, known_some hmcc, ?_⟩
    refine Option.bind_eq_some_iff.2 ⟨_, known_some hmnc, ?_⟩
    refine Option.bind_eq_some_iff.2 ⟨_, known_some hmcc, ?_⟩
    refine Option.bind_eq_some_iff.2 ⟨_, known_some hmnc, ?_⟩
    refine Option.bind_eq_some_iff.2 ⟨_, known_some hname, ?_⟩
    exact Option.bind_eq_some_iff.2 ⟨(), (Option.guard_eq_some' _).2 ⟨rfl, rfl⟩, rfl⟩

end Modem

/-! ### Agreement -/

/-- What is known, and what is shown to subscribers, is what the modem shows. -/
structure Knowledge.Agrees (knowledge : Knowledge) (modem : Modem) : Prop where
  /-- The serial number is the one shown. -/
  iccid_eq : ∀ iccid, iccid ≠ "" → modem.iccid = some iccid → knowledge.identity.iccid = some iccid
  /-- There is none if none is shown, or an empty one. -/
  iccid_eq_none : modem.iccid = none ∨ modem.iccid = some "" → knowledge.identity.iccid = none
  /-- The subscription is the one shown, if there is one. -/
  imsi_eq : ∀ imsi, imsi ≠ "" → modem.imsi = some imsi → knowledge.identity.imsi = some imsi
  /-- The card's name is the one shown, if there is one, and shown to subscribers. -/
  cardName_eq : ∀ name, name ≠ "" → modem.spn = some name →
    knowledge.cardName = some name ∧ knowledge.identity.spn = some name
  /-- Without a name of its own, a card that is served at home is shown under the operator's. -/
  operator_eq : ∀ name, knowledge.cardName = none → modem.ServedAtHome name →
    knowledge.identity.spn = some name
  /-- The fallback name is made up of the card's codes. -/
  fallback_eq : ∀ mcc mnc, modem.Tells mcc mnc → knowledge.fallback = .ofCodes mcc mnc
  /-- There is none if the card is not ready, or lacks one of them. -/
  fallback_eq_empty : (∀ mcc mnc, ¬ modem.Tells mcc mnc) → knowledge.fallback = ∅
  /-- It is known whether a network is attached. -/
  attached_iff : knowledge.attached = true ↔ modem.network ≠ none

/-- What reflects the modem agrees with it, if the name shown is the one that the sources give. -/
theorem Knowledge.Reflects.agrees {knowledge : Knowledge} {modem : Modem}
    (h : knowledge.Reflects modem) (hcoherent : knowledge.Coherent) : knowledge.Agrees modem where
  iccid_eq iccid hne hiccid := by
    rw [h.iccid_eq, hiccid]
    exact known_some hne
  iccid_eq_none hiccid := by
    rw [h.iccid_eq]
    rcases hiccid with hiccid | hiccid
    · rw [hiccid, known_none]
    · rw [hiccid, known_empty]
  imsi_eq imsi hne himsi := h.imsi_eq imsi (by rw [himsi]; exact known_some hne)
  cardName_eq name hne hname := by
    have hcard : knowledge.cardName = some name :=
      h.cardName_eq name (by rw [hname]; exact known_some hne)
    exact ⟨hcard, hcoherent.spn_of_cardName hcard⟩
  operator_eq name hcard hserved := by
    have hcached : knowledge.cachedName = some name :=
      h.cachedName_eq name (Modem.homeOperator?_eq_some_iff.2 hserved) (by rw [hcard, known_none])
    exact hcoherent.spn_of_cachedName hcached
  fallback_eq mcc mnc htells := h.fallback_eq.trans (Modem.fallbackName_of_tells htells)
  fallback_eq_empty hnot := h.fallback_eq.trans (Modem.fallbackName_of_not_tells hnot)
  attached_iff := by rw [h.attached_eq, Option.isSome_iff_ne_none]

variable {σ : Type} [StringStore σ]

/-- **A tracker that has read everything agrees with its modem**: after the start, and after any
call to read everything again, whatever it knew before, whatever the cache told it meanwhile, and
however the stores failed. -/
theorem tracker_agrees_with_modem (cfg : Config) (modem : Modem) :
    (∀ store : σ, (Run.start cfg modem store).Agrees modem) ∧
      ∀ run : Run σ, Reachable cfg run → (run.resync cfg modem).Agrees modem := by
  have hagrees {run : Run σ} (h : JustRead cfg modem run) : run.Agrees modem :=
    h.reflects.agrees h.reachable.coherent
  exact ⟨fun store => hagrees (.start store), fun run hrun => hagrees (.resync hrun)⟩

/-- A card without a name of its own is put in while the memory keeps nothing, tells another
subscription for it, and a name for that. All the same it is shown as the modem shows it. -/
theorem card_put_in_at_home :
    let memory : VolatileStore := (VolatileStore.insert ∅
      (Cache.Entry.address {} (.imsiOf "8901")) "00102").insert
        (Cache.Entry.address {} (.nameOf "00102")) "Other"
    let store : UnreliableStore := { memory, commitPlan := [false, false, false] }
    let run := Run.start {} { path := "/ril_0" } store
    let modem : Modem := { Modem.atHome with spn := none }
    let after := run.resync {} modem
    Reachable {} run ∧ modem.ServedAtHome "Home" ∧ after.writeFailed = true ∧
      after.identity.imsi = some "00101" ∧ after.identity.spn = some "Home" := by
  intro memory store run modem after
  have hreachable : Reachable {} run := .start _ _
  have hagrees : after.Agrees modem := (tracker_agrees_with_modem {} modem).2 run hreachable
  have hserved : modem.ServedAtHome "Home" :=
    .intro rfl rfl (.inl rfl) (by decide) (by decide) (by decide)
  have hcard : after.cardName = none := by decide +kernel
  refine ⟨hreachable, hserved, ?_, ?_, ?_⟩
  · decide +kernel
  · exact hagrees.imsi_eq "00101" (by decide) rfl
  · exact hagrees.operator_eq "Home" hcard hserved

end SimIdentity
