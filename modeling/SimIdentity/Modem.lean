import SimIdentity.FallbackName
import SimIdentity.Text

/-!
# What a modem reports

A `Modem` is everything that can be read from one modem slot at a given moment: the
identifiers of the card in it, the state of the card, and the network it is registered with.
Reports that something changed carry no value (`Change`); whoever receives one reads the
modem again.

Two names are derived from a report. The fallback name needs a card whose files can be read.
The home operator's name may only be taken from the serving network if that network is the
card's own: `Modem.homeOperator?` asks for a ready card, a registration, and codes that are
known on both sides and equal.
-/

namespace SimIdentity

/-- How far a card has come up. -/
inductive CardState where
  /-- No card is inserted. -/
  | notPresent
  /-- The card is inserted but not initialized yet. -/
  | inserted
  /-- The card waits for a PIN or PUK. -/
  | lockedOut
  /-- The card is initialized and its files can be read. -/
  | ready
  /-- The card is being reset. -/
  | resetting
  deriving DecidableEq, Repr

/-- The standing of the terminal with a network. -/
inductive RegistrationStatus where
  /-- Not registered, and not looking for an operator either. -/
  | notRegistered
  /-- Registered with the home network. -/
  | registered
  /-- Not registered, looking for an operator. -/
  | searching
  /-- The network refused the registration. -/
  | denied
  /-- Unknown, for instance out of coverage. -/
  | unknown
  /-- Registered with a foreign network. -/
  | roaming
  deriving DecidableEq, Repr

namespace RegistrationStatus

/-- The number that stands for the status in registration reports. -/
def code : RegistrationStatus → Nat
  | notRegistered => 0
  | registered => 1
  | searching => 2
  | denied => 3
  | unknown => 4
  | roaming => 5

/-- Whether the terminal is registered, at home or abroad. -/
def isRegistered (status : RegistrationStatus) : Bool :=
  status = registered || status = roaming

end RegistrationStatus

/-- The card in the slot, with the codes of its home network. -/
structure Card where
  /-- How far the card has come up. -/
  state : CardState
  /-- The mobile country code of the home network. -/
  mcc : Option String := none
  /-- The mobile network code of the home network. -/
  mnc : Option String := none
  deriving DecidableEq, Repr

/-- The network the modem is attached to. -/
structure Network where
  /-- The standing with the network. -/
  status : RegistrationStatus
  /-- The mobile country code of the serving network. -/
  mcc : Option String := none
  /-- The mobile network code of the serving network. -/
  mnc : Option String := none
  /-- The operator name the serving network advertises. -/
  name : Option String := none
  deriving DecidableEq, Repr

/-- All that can be read from one modem slot. -/
structure Modem where
  /-- The object path of the modem, such as `/ril_0`. -/
  path : String
  /-- The serial number of the card. -/
  iccid : Option String := none
  /-- The identity of the subscription. -/
  imsi : Option String := none
  /-- The provider name stored on the card. -/
  spn : Option String := none
  /-- The card. -/
  card : Option Card := none
  /-- The attached network. -/
  network : Option Network := none
  deriving DecidableEq, Repr

/-- The reports a modem gives. -/
inductive Change where
  /-- Another serial number, or none. -/
  | iccid
  /-- Another subscription. -/
  | imsi
  /-- Another provider name on the card. -/
  | spn
  /-- A network was attached or detached. -/
  | network
  /-- The standing with the attached network changed. -/
  | networkStatus
  deriving DecidableEq, Repr

namespace Modem

/-- The fallback name that the card's codes give, empty unless the card is ready and names
both of them. -/
def fallbackName (modem : Modem) : FallbackName :=
  match modem.card with
  | some { state := .ready, mcc := some mcc, mnc := some mnc } => .ofCodes mcc mnc
  | _ => ∅

/-- The serving operator's name, if the serving network is the home network of a ready card.
Codes and name count only if they are not empty. -/
def homeOperator? (modem : Modem) : Option String := do
  let card ← modem.card
  let network ← modem.network
  guard (card.state = .ready ∧ network.status.isRegistered)
  let cardMcc ← known card.mcc
  let cardMnc ← known card.mnc
  let networkMcc ← known network.mcc
  let networkMnc ← known network.mnc
  let name ← known network.name
  guard (cardMcc = networkMcc ∧ cardMnc = networkMnc)
  return name

/-- Without a network there is no home operator. -/
theorem homeOperator?_of_network_none {modem : Modem} (h : modem.network = none) :
    modem.homeOperator? = none := by
  unfold homeOperator?
  rw [h]
  cases modem.card with
  | none => rfl
  | some card => rfl

/-- The operator's name is only taken if it is not empty. -/
theorem ne_empty_of_homeOperator? {modem : Modem} {name : String}
    (h : modem.homeOperator? = some name) : name ≠ "" := by
  obtain ⟨card, -, h⟩ := Option.bind_eq_some_iff.1 h
  obtain ⟨network, -, h⟩ := Option.bind_eq_some_iff.1 h
  obtain ⟨-, -, h⟩ := Option.bind_eq_some_iff.1 h
  obtain ⟨cardMcc, -, h⟩ := Option.bind_eq_some_iff.1 h
  obtain ⟨cardMnc, -, h⟩ := Option.bind_eq_some_iff.1 h
  obtain ⟨networkMcc, -, h⟩ := Option.bind_eq_some_iff.1 h
  obtain ⟨networkMnc, -, h⟩ := Option.bind_eq_some_iff.1 h
  obtain ⟨operator, hoperator, h⟩ := Option.bind_eq_some_iff.1 h
  obtain ⟨-, -, h⟩ := Option.bind_eq_some_iff.1 h
  cases h
  exact (known_eq_some_iff.1 hoperator).2

theorem homeOperator?_ne_empty (modem : Modem) : modem.homeOperator? ≠ some "" :=
  fun h => ne_empty_of_homeOperator? h rfl

end Modem

end SimIdentity
