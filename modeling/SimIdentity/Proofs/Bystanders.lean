import SimIdentity.Proofs.Persisted
import SimIdentity.Proofs.Start
import SimIdentity.Proofs.Swap

/-!
# The names of other subscriptions

Each subscription has a name of its own in the cache, and a tracker is to write to the one of the
subscription that it tracks. Work on names does so (`Ledger.NameSteps.nameOf_eq`). What has to be
asked is which subscription is tracked at that moment. While a tracker begins, it is at first the
one that the cache knows the card by, and the operator's name is looked at before the card is asked
for its subscription.

## What is proved

`start_leaves_other_names_iff`: a start with a card that reports its subscription leaves the names
of all others, unless the operator's name is saved for the wrong one meanwhile (`NamesBystander`).
-/

namespace SimIdentity

/-- The cards at home whose operator's name is saved for another subscription. -/
inductive NamesBystander (entries : Cache.Entry → Option String) (modem : Modem) : Prop where
  /-- The cache knows the card by another subscription than the one it reports, and holds another
  name for that one than the operator's. -/
  | intro {recorded operator : String} :
      Ledger.toldImsi entries (known modem.iccid) = some recorded →
      known modem.imsi ≠ some recorded → modem.homeOperator? = some operator →
      entries (.nameOf recorded) ≠ some operator →
      NamesBystander entries modem

namespace Ledger

variable {ledger after : Ledger} {modem : Modem} {imsi other : String}

/-- Work on names leaves the names of all subscriptions but the one that is tracked. -/
theorem NameSteps.nameOf_eq (h : NameSteps ledger after) (hother : known ledger.imsi ≠ some other) :
    after.entries (.nameOf other) = ledger.entries (.nameOf other) := by
  induction h with
  | refl => rfl
  | learn _ _ _ _ ih => exact ih
  | persistName h ih =>
    refine (entries_persistName_of_ne fun imsi himsi hsame => hother ?_).trans ih
    rw [← h.renames.imsi_eq, himsi, Cache.Entry.nameOf.inj hsame]

theorem nameOf_observeImsi (himsi : known modem.imsi = some imsi) (hother : other ≠ imsi)
    (ledger : Ledger) :
    (ledger.observeImsi modem).entries (.nameOf other) = ledger.entries (.nameOf other) := by
  rcases observeImsi_cases modem ledger with
    ⟨-, hobserve⟩ | ⟨reported, moved, hreported, -, hmoved, hobserve⟩
  · rw [hobserve]
  · obtain rfl := Option.some.inj (himsi.symm.trans hreported)
    have hmovedImsi : known moved.imsi ≠ some other := by
      rw [hmoved.imsi_eq, known_some (known_eq_some_iff.1 himsi).2]
      exact fun h => hother (Option.some.inj h).symm
    rw [hobserve, NameSteps.refl.recallName.persistName.nameOf_eq hmovedImsi]
    exact hmoved.nameOf other

/-- What becomes of the names of other subscriptions is settled before the card is asked for its
own one. -/
theorem nameOf_observeAll (himsi : known modem.imsi = some imsi) (hother : other ≠ imsi)
    (ledger : Ledger) :
    (ledger.observeAll modem).entries (.nameOf other) =
      ((ledger.observeIccid modem).adoptHomeOperator modem).entries (.nameOf other) := by
  simp only [Ledger.observeAll]
  have htracked : known ((((ledger.observeIccid modem).adoptHomeOperator modem).observeImsi
      modem).imsi) ≠ some other := by
    rw [imsi_observeImsi _ himsi, known_some (known_eq_some_iff.1 himsi).2]
    exact fun h => hother (Option.some.inj h).symm
  rw [((NameSteps.refl.observeCardName modem).adoptHomeOperator modem).nameOf_eq htracked,
    nameOf_observeImsi himsi hother]

/-- At home, a start saves the operator's name for the subscription that the cache tells. -/
theorem nameOf_observeAll_blank (himsi : known modem.imsi = some imsi) (hother : other ≠ imsi)
    (entries : Cache.Entry → Option String) (committed : Nat) :
    (Ledger.observeAll modem { entries, committed }).entries (.nameOf other) =
      if toldImsi entries (known modem.iccid) = some other then
        (modem.homeOperator? <|> entries (.nameOf other))
      else entries (.nameOf other) := by
  rw [nameOf_observeAll himsi hother, observeIccid_blank, ← recognized]
  split
  case isTrue htold =>
    rw [(settled_recognized htold).adoptHomeOperator rfl]
    cases modem.homeOperator? with
    | none => rfl
    | some operator => exact Function.update_self _ _ _
  case isFalse htold =>
    refine (NameSteps.refl.adoptHomeOperator modem).nameOf_eq fun hknown => htold ?_
    exact (known_eq_some_iff.1 hknown).1

end Ledger

/-- **A new tracker names no other subscription.** Over a memory that can be reached at all times,
let a tracker be made for a modem that reports a subscription. The cache holds the same names for
all other subscriptions as before, but for the cards of `NamesBystander`. -/
theorem start_leaves_other_names_iff (cfg : Config) {modem : Modem} {store : VolatileStore}
    {imsi : String} (h : store.available = true) (himsi : known modem.imsi = some imsi) :
    (∀ other, other ≠ imsi → (Run.start cfg modem store).store.cached cfg (.nameOf other) =
        store.cached cfg (.nameOf other)) ↔
      ¬ NamesBystander (store.cached cfg) modem := by
  have hentries : (Run.start cfg modem store).store.cached cfg = _ :=
    congrArg Ledger.entries (Run.ledger_start h modem)
  rw [hentries]
  constructor
  · rintro hsame @⟨recorded, operator, htold, hnew, hhome, hname⟩
    have hother : recorded ≠ imsi := fun heq => hnew (by rw [himsi, heq])
    have hkept := hsame recorded hother
    rw [Ledger.nameOf_observeAll_blank himsi hother, if_pos htold, hhome] at hkept
    exact hname hkept.symm
  · intro hnot other hother
    rw [Ledger.nameOf_observeAll_blank himsi hother]
    split
    case isTrue htold =>
      cases hhome : modem.homeOperator? with
      | none => rfl
      | some operator =>
        refine Decidable.byContradiction fun hname => hnot (.intro htold ?_ hhome (Ne.symm hname))
        rw [himsi]
        exact fun heq => hother (Option.some.inj heq).symm
    case isFalse => rfl

/-- Out of coverage, the name of the other subscription is left alone. -/
theorem start_offline_leaves_other_names :
    let card : Modem := { Modem.atHome with iccid := some "8902", network := none }
    VolatileStore.knowing8902.available = true ∧ known card.imsi = some "00101" ∧
      ∀ other, other ≠ "00101" →
        (Run.start {} card VolatileStore.knowing8902).store.cached {} (.nameOf other) =
          VolatileStore.knowing8902.cached {} (.nameOf other) := by
  intro card
  have himsi : known card.imsi = some "00101" := by decide
  refine ⟨rfl, himsi, (start_leaves_other_names_iff {} rfl himsi).2 ?_⟩
  rintro ⟨-, -, hhome, -⟩
  cases hhome

/-- At home, the name that the cache told for the other subscription gives way to the operator's. -/
theorem start_at_home_renames_other_subscription :
    let card : Modem := { Modem.atHome with iccid := some "8902", spn := none }
    let run := Run.start {} card VolatileStore.knowing8902
    VolatileStore.knowing8902.available = true ∧ known card.iccid = some "8902" ∧
      known card.imsi = some "00101" ∧
      VolatileStore.knowing8902.cached {} (.nameOf "00102") = some "New" ∧
      run.store.cached {} (.nameOf "00102") = some "Home" := by
  decide +kernel

end SimIdentity
