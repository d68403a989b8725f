import SimIdentity.Proofs.Authority
import SimIdentity.Proofs.Delivery
import SimIdentity.Proofs.Persisted
import SimIdentity.Proofs.Repetition
import SimIdentity.Proofs.Start
import SimIdentity.Proofs.Swap

/-!
# What the next tracker shows

A tracker is released, and another one is made over the stores it leaves behind. All that the second
one knows of the card at first is what the first one has saved.

What a new tracker shows is `firstIdentity`: a function of what the modem shows and of what the
cache tells (`Run.identity_start`). So two trackers can be compared by what the cache has told the
first one, and what it tells the second one.

## What is proved

`next_tracker_recalls_card`: a card that has reported its subscription and its name is recognized by
its serial number alone, and nothing is left to be saved.

`restart_shows_same_identity_iff`: a tracker that is made anew for the same modem shows the same,
but for one kind of card (`ShowsForeignName`). It reports another subscription than the cache knows
it by, and no name. The name of the old subscription goes on to be shown, though it is not saved for
the new one, and is gone after the next start.
-/

namespace SimIdentity

/-- What a new tracker shows for a modem, if the cache tells these entries. -/
def firstIdentity (entries : Cache.Entry → Option String) (modem : Modem) : Identity :=
  let recorded := Ledger.toldImsi entries (known modem.iccid)
  let imsi := known modem.imsi <|> recorded
  let told := Ledger.toldName entries imsi <|> Ledger.toldName entries recorded
  { path := modem.path
    iccid := known modem.iccid
    imsi
    spn := publicName? (known modem.spn) ((known modem.spn <|> modem.homeOperator?) <|> told)
      modem.fallbackName }

namespace Ledger

variable {ledger : Ledger} {modem : Modem} {imsi : String}
  {entries : Cache.Entry → Option String} {committed : Nat}

/-! ### The names that are taken over -/

theorem cachedName_adoptHomeOperator (hcard : ledger.cardName = none) (modem : Modem) :
    (ledger.adoptHomeOperator modem).cachedName = (modem.homeOperator? <|> ledger.cachedName) := by
  simp only [Ledger.adoptHomeOperator]
  cases modem.homeOperator? with
  | none => rfl
  | some operator =>
    dsimp only
    rw [hcard, known_none, if_pos rfl]
    simp only [Ledger.adoptName]
    split
    case isTrue hsame => exact hsame
    case isFalse => exact cachedName_persistName _

/-- The name on the card counts for more than the operator's, and both for more than the one that
was known. -/
theorem cachedName_observeNames (hcard : ledger.cardName = none) (modem : Modem) :
    ((ledger.observeCardName modem).adoptHomeOperator modem).cachedName =
      ((known modem.spn <|> modem.homeOperator?) <|> ledger.cachedName) := by
  simp only [Ledger.observeCardName]
  cases hspn : known modem.spn with
  | none => exact cachedName_adoptHomeOperator hcard modem
  | some name =>
    have hnew : ledger.cardName ≠ some name := by rw [hcard]; exact (Option.some_ne_none name).symm
    have hknown : known (some name) = some name := known_some (known_eq_some_iff.1 hspn).2
    dsimp only
    simp only [Ledger.adoptCardName]
    rw [if_neg hnew, adoptHomeOperator_of_cardName, cachedName_persistName]
    · rfl
    · rw [cardName_persistName, hknown]
      exact Option.some_ne_none name

theorem adoptHomeOperator_of_abroad (hhome : modem.homeOperator? = none) (ledger : Ledger) :
    ledger.adoptHomeOperator modem = ledger := by
  simp only [Ledger.adoptHomeOperator]
  rw [hhome]

/-! ### The first reading -/

theorem imsi_observeImsi_eq (modem : Modem) (ledger : Ledger) :
    (ledger.observeImsi modem).imsi = (known modem.imsi <|> ledger.imsi) := by
  cases himsi : known modem.imsi with
  | none =>
    simp only [Ledger.observeImsi]
    rw [himsi]
    rfl
  | some imsi => exact imsi_observeImsi ledger himsi

/-- The subscription that is reported counts for more than the one that the cache tells. -/
theorem imsi_observeAll_blank (entries : Cache.Entry → Option String) (committed : Nat)
    (modem : Modem) :
    (Ledger.observeAll modem { entries, committed }).imsi =
      (known modem.imsi <|> toldImsi entries (known modem.iccid)) := by
  simp only [Ledger.observeAll]
  rw [((NameSteps.refl.observeCardName modem).adoptHomeOperator modem).renames.imsi_eq,
    imsi_observeImsi_eq, (NameSteps.refl.adoptHomeOperator modem).renames.imsi_eq,
    observeIccid_blank]

/-- Another subscription brings the name along that the cache tells for it. If there is none, the
old name stays. -/
theorem cachedName_observeImsi (hcard : ledger.cardName = none)
    (htold : toldName ledger.entries ledger.imsi = ledger.cachedName) (modem : Modem) :
    (ledger.observeImsi modem).cachedName =
      (toldName ledger.entries (known modem.imsi <|> ledger.imsi) <|> ledger.cachedName) := by
  rcases observeImsi_cases modem ledger with
    ⟨hecho, hobserve⟩ | ⟨imsi, moved, himsi, -, hmoved, hobserve⟩
  · have hsame : (known modem.imsi <|> ledger.imsi) = ledger.imsi := by
      cases himsi : known modem.imsi with
      | none => rfl
      | some imsi => exact (hecho imsi himsi).symm
    rw [hobserve, hsame, htold]
    cases ledger.cachedName <;> rfl
  · have hne : imsi ≠ "" := (known_eq_some_iff.1 himsi).2
    rw [hobserve, himsi]
    show _ = (toldName ledger.entries (some imsi) <|> ledger.cachedName)
    cases hname : toldName ledger.entries (some imsi) with
    | some name => rw [hmoved.settle_of_told hne hcard hname]; rfl
    | none =>
      rw [hmoved.settle_of_untold hne hname, cachedName_persistName, hmoved.cachedName_eq]
      rfl

theorem cachedName_observeAll_blank (entries : Cache.Entry → Option String) (committed : Nat)
    (modem : Modem) :
    (Ledger.observeAll modem { entries, committed }).cachedName =
      ((known modem.spn <|> modem.homeOperator?) <|>
        (toldName entries (known modem.imsi <|> toldImsi entries (known modem.iccid)) <|>
          toldName entries (toldImsi entries (known modem.iccid)))) := by
  simp only [Ledger.observeAll]
  rw [cachedName_observeNames, observeIccid_blank, ← recognized]
  · cases hspn : known modem.spn with
    | some name => rfl
    | none =>
      cases hhome : modem.homeOperator? with
      | some operator => rfl
      | none =>
        rw [adoptHomeOperator_of_abroad hhome, cachedName_observeImsi rfl rfl]
        rfl
  · rw [cardName_observeImsi, cardName_adoptHomeOperator, observeIccid_blank]

/-! ### What the second reading finds -/

theorem observeAll_of_identified (himsi : known modem.imsi = none) (hspn : known modem.spn = none)
    (hhome : modem.homeOperator? = none) :
    observeAll modem { entries, committed } = recognized entries committed modem := by
  simp only [Ledger.observeAll, Ledger.observeImsi, Ledger.observeCardName]
  rw [himsi, hspn, adoptHomeOperator_of_abroad hhome, adoptHomeOperator_of_abroad hhome,
    observeIccid_blank, recognized]

/-- A card that shows its subscription and its name leaves both in the cache. -/
theorem told_of_shown {iccid name : String} (hiccid : known modem.iccid = some iccid)
    (himsi : known modem.imsi = some imsi) (hspn : known modem.spn = some name) :
    toldImsi (observeAll modem { entries, committed }).entries (some iccid) = some imsi ∧
      toldName (observeAll modem { entries, committed }).entries (some imsi) = some name := by
  rw [← hiccid]
  cases hrecorded : toldImsi entries (known modem.iccid) with
  | none =>
    obtain ⟨htoldImsi, htoldName⟩ := @told_of_new imsi modem entries committed hrecorded himsi
    rw [htoldName, hspn, hiccid]
    exact ⟨htoldImsi iccid hiccid, rfl⟩
  | some recorded =>
    by_cases hsame : recorded = imsi
    · obtain ⟨htoldImsi, htoldName⟩ := @told_of_recognized imsi modem entries committed
        (hsame ▸ hrecorded) fun _ h => Option.some.inj (h.symm.trans himsi)
      rw [htoldName, hspn]
      exact ⟨htoldImsi, rfl⟩
    · obtain ⟨htoldImsi, htoldName⟩ :=
        @told_of_replaced imsi modem entries committed recorded hrecorded himsi hsame
      rw [htoldName, hspn]
      exact ⟨htoldImsi, ite_self _⟩

end Ledger

/-! ### What there is to see first -/

theorem Run.identity_start (cfg : Config) (modem : Modem) {store : VolatileStore}
    (h : store.available = true) :
    (Run.start cfg modem store).identity = firstIdentity (store.cached cfg) modem := by
  have hledger := @Run.ledger_start cfg store h modem
  have himsi : (Run.start cfg modem store).identity.imsi = _ :=
    (congrArg Ledger.imsi hledger).trans (Ledger.imsi_observeAll_blank _ _ _)
  have hcached : (Run.start cfg modem store).cachedName = _ :=
    (congrArg Ledger.cachedName hledger).trans (Ledger.cachedName_observeAll_blank _ _ _)
  have hseen := Run.reflects_observeAll cfg modem
    ({ identity := { path := modem.path }, store } : Run VolatileStore)
  obtain ⟨_, hstart⟩ := Run.start_touches cfg modem store
  have hiccid : (Run.start cfg modem store).identity.iccid = known modem.iccid := by
    rw [hstart]
    exact hseen.iccid_eq
  have hfallback : (Run.start cfg modem store).fallback = modem.fallbackName := by
    rw [hstart]
    exact hseen.fallback_eq
  have hcard : (Run.start cfg modem store).cardName = known modem.spn := by
    rw [hstart]
    refine (Run.cardName_observeAll cfg modem _).trans ?_
    cases known modem.spn <;> simp
  have hspn := (Knowledge.coherent_start cfg modem store).spn_eq
  rw [hcard, hcached, hfallback] at hspn
  refine Identity.eq_of_part (Run.path_start cfg modem store) fun signal => ?_
  cases signal with
  | iccid => exact hiccid
  | imsi => exact himsi
  | spn => exact hspn

/-! ### Starting again -/

/-- The cards that are shown under a name at first that is gone after the next start. -/
inductive ShowsForeignName (entries : Cache.Entry → Option String) (modem : Modem) : Prop where
  /-- The card reports another subscription than the one the cache knows it by, and the cache tells
  a name for that one only. Nothing but a fallback name is there for the right one, and not even
  that tells the same. -/
  | intro {imsi recorded name : String} :
      known modem.imsi = some imsi →
      Ledger.toldImsi entries (known modem.iccid) = some recorded →
      (known modem.spn <|> modem.homeOperator?) = none →
      Ledger.toldName entries (some imsi) = none →
      Ledger.toldName entries (some recorded) = some name →
      known (some modem.fallbackName.text) ≠ some name →
      ShowsForeignName entries modem

/-- When a card that reports another subscription than the cache tells is one of them. -/
theorem showsForeignName_iff {entries : Cache.Entry → Option String} {modem : Modem}
    {imsi recorded : String} (hreported : known modem.imsi = some imsi)
    (hrecorded : Ledger.toldImsi entries (known modem.iccid) = some recorded) :
    ShowsForeignName entries modem ↔
      (known modem.spn <|> modem.homeOperator?) = none ∧
        Ledger.toldName entries (some imsi) = none ∧
        ∃ name, Ledger.toldName entries (some recorded) = some name ∧
          known (some modem.fallbackName.text) ≠ some name := by
  constructor
  · rintro ⟨himsi, hother, hnames, huntold, htold, hfallback⟩
    obtain rfl := Option.some.inj (hreported.symm.trans himsi)
    obtain rfl := Option.some.inj (hrecorded.symm.trans hother)
    exact ⟨hnames, huntold, _, htold, hfallback⟩
  · rintro ⟨hnames, huntold, name, htold, hfallback⟩
    exact .intro hreported hrecorded hnames huntold htold hfallback

section Again

variable {modem : Modem} {imsi : String} {entries : Cache.Entry → Option String} {committed : Nat}
  {first : Ledger} (hfirst : Ledger.observeAll modem { entries, committed } = first)
include hfirst

theorem firstIdentity_again_of_unidentified
    (hrecorded : Ledger.toldImsi entries (known modem.iccid) = none)
    (hreported : known modem.imsi = none) :
    firstIdentity first.entries modem = firstIdentity entries modem := by
  have hcache := @Ledger.observeAll_of_unidentified modem entries committed hrecorded hreported
  rw [← hfirst, hcache.entries_eq]

theorem firstIdentity_again_of_recognized
    (hrecorded : Ledger.toldImsi entries (known modem.iccid) = some imsi)
    (hreported : ∀ reported, known modem.imsi = some reported → reported = imsi) :
    firstIdentity first.entries modem = firstIdentity entries modem := by
  obtain ⟨htoldImsi, htoldName⟩ :=
    @Ledger.told_of_recognized imsi modem entries committed hrecorded hreported
  have himsi : (known modem.imsi <|> some imsi) = some imsi := by
    cases himsi : known modem.imsi with
    | none => rfl
    | some reported => exact congrArg some (hreported reported himsi)
  rw [hfirst] at htoldImsi htoldName
  simp only [firstIdentity]
  rw [htoldImsi, hrecorded, himsi, htoldName]
  cases (known modem.spn <|> modem.homeOperator?) <;>
    cases Ledger.toldName entries (some imsi) <;> rfl

theorem firstIdentity_again_of_new
    (hrecorded : Ledger.toldImsi entries (known modem.iccid) = none)
    (hreported : known modem.imsi = some imsi) :
    firstIdentity first.entries modem = firstIdentity entries modem := by
  obtain ⟨htoldImsi, htoldName⟩ :=
    @Ledger.told_of_new imsi modem entries committed hrecorded hreported
  rw [hfirst] at htoldImsi htoldName
  have himsi (other : Option String) : (some imsi <|> other) = some imsi := rfl
  have hrecall : Ledger.toldImsi first.entries (known modem.iccid) = none ∨
      Ledger.toldImsi first.entries (known modem.iccid) = some imsi := by
    cases hiccid : known modem.iccid with
    | none => exact .inl rfl
    | some iccid => exact .inr (htoldImsi iccid hiccid)
  simp only [firstIdentity]
  rw [hreported, himsi, himsi, hrecorded, htoldName]
  rcases hrecall with hrecall | hrecall
  · rw [hrecall]
    cases (known modem.spn <|> modem.homeOperator?) <;>
      cases Ledger.toldName entries (some imsi) <;> rfl
  · rw [hrecall, htoldName]
    cases (known modem.spn <|> modem.homeOperator?) <;>
      cases Ledger.toldName entries (some imsi) <;> rfl

/-- If the card has got another subscription, a name of the old one may have been shown. -/
theorem firstIdentity_again_of_replaced {old : String}
    (hrecorded : Ledger.toldImsi entries (known modem.iccid) = some old)
    (hreported : known modem.imsi = some imsi) (hold : old ≠ imsi) :
    firstIdentity first.entries modem = firstIdentity entries modem ↔
      ¬ ShowsForeignName entries modem := by
  obtain ⟨htoldImsi, htoldName⟩ :=
    @Ledger.told_of_replaced imsi modem entries committed old hrecorded hreported hold
  have himsi (other : Option String) : (some imsi <|> other) = some imsi := rfl
  rw [hfirst] at htoldImsi htoldName
  rw [showsForeignName_iff hreported hrecorded]
  simp only [firstIdentity, Identity.mk.injEq]
  rw [hreported, himsi, himsi, hrecorded, htoldImsi, htoldName]
  simp only [true_and]
  cases hspn : known modem.spn with
  | some name => exact iff_of_true rfl fun h => Option.some_ne_none name h.1
  | none =>
    cases hhome : modem.homeOperator? with
    | some operator => exact iff_of_true rfl fun h => Option.some_ne_none operator h.1
    | none =>
      cases hname : Ledger.toldName entries (some imsi) with
      | some name => exact iff_of_true rfl fun h => Option.some_ne_none name h.2.1
      | none =>
        show publicName? none none modem.fallbackName =
          publicName? none (Ledger.toldName entries (some old)) modem.fallbackName ↔ _
        cases hother : Ledger.toldName entries (some old) with
        | none => exact iff_of_true rfl fun ⟨_, _, name, h, _⟩ => Option.some_ne_none name h.symm
        | some name =>
          have hne : name ≠ "" := (known_eq_some_iff.1 hother).2
          rw [publicName?_of_unnamed, publicName?_of_cached hne]
          constructor
          · rintro hsame ⟨-, -, _, ⟨⟩, hdiffers⟩
            exact hdiffers hsame
          · intro hnot
            by_contra hdiffers
            exact hnot ⟨rfl, rfl, name, rfl, hdiffers⟩

/-- A second start shows the same as the first one, but for the cards of `ShowsForeignName`. -/
theorem firstIdentity_again_iff :
    firstIdentity first.entries modem = firstIdentity entries modem ↔
      ¬ ShowsForeignName entries modem := by
  cases hrecorded : Ledger.toldImsi entries (known modem.iccid) with
  | none =>
    have hnot : ¬ ShowsForeignName entries modem := fun ⟨_, h, _, _, _, _⟩ =>
      Option.some_ne_none _ (h.symm.trans hrecorded)
    cases hreported : known modem.imsi with
    | none =>
      exact iff_of_true (firstIdentity_again_of_unidentified hfirst hrecorded hreported) hnot
    | some imsi => exact iff_of_true (firstIdentity_again_of_new hfirst hrecorded hreported) hnot
  | some recorded =>
    by_cases hsame : ∀ reported, known modem.imsi = some reported → reported = recorded
    · refine iff_of_true (firstIdentity_again_of_recognized hfirst hrecorded hsame) ?_
      rintro ⟨himsi, hother, -, huntold, htold, -⟩
      obtain rfl := hsame _ himsi
      obtain rfl := Option.some.inj (hrecorded.symm.trans hother)
      exact Option.some_ne_none _ (htold.symm.trans huntold)
    · obtain ⟨imsi, hreported, hnew⟩ := by simpa using hsame
      exact firstIdentity_again_of_replaced hfirst hrecorded hreported (Ne.symm hnew)

end Again

/-! ### Two trackers -/

/-- **What was saved is found again.** Let a tracker be made for a modem that shows a serial number,
a subscription and a name, and be released. The next one is made for a modem that shows the same
serial number, and neither a subscription nor a name nor a network. It shows the same subscription
and the same name, and has nothing to write. -/
theorem next_tracker_recalls_card (cfg : Config) {modem next : Modem} {store : VolatileStore}
    {iccid imsi name : String} (h : store.available = true)
    (hiccid : known modem.iccid = some iccid) (himsi : known modem.imsi = some imsi)
    (hspn : known modem.spn = some name) (hsame : known next.iccid = some iccid)
    (hunreported : known next.imsi = none) (hunnamed : known next.spn = none)
    (hdetached : next.network = none) :
    let first := Run.start cfg modem store
    let second := Run.start cfg next first.release.store
    second.identity =
        { path := next.path, iccid := some iccid, imsi := some imsi, spn := some name } ∧
      second.hasPendingWrites = false ∧
      second.store.committed = first.store.committed ∧
      ∀ address, second.store.get? address = first.store.get? address := by
  intro first second
  have havailable : first.store.available = true := (Run.uses_start cfg modem store).available h
  have hfirst : first.store.cached cfg = _ :=
    congrArg Ledger.entries (@Run.ledger_start cfg store h modem)
  obtain ⟨htoldImsi, htoldName⟩ := @Ledger.told_of_shown modem imsi (store.cached cfg)
    store.committed iccid name hiccid himsi hspn
  rw [← hfirst] at htoldImsi htoldName
  have hhome : next.homeOperator? = none := Modem.homeOperator?_of_network_none hdetached
  have hledger : second.ledger cfg = _ := Run.ledger_start havailable next
  rw [Ledger.observeAll_of_identified hunreported hunnamed hhome] at hledger
  have hcommitted : second.store.committed = first.store.committed :=
    congrArg Ledger.committed hledger
  refine ⟨?_, ?_, hcommitted,
    ((Run.uses_start cfg next first.store).quiet havailable).2 hcommitted⟩
  · have hne : name ≠ "" := (known_eq_some_iff.1 hspn).2
    refine (Run.identity_start cfg next havailable).trans ?_
    simp only [firstIdentity]
    rw [hsame, hunreported, hunnamed, hhome, htoldImsi]
    have hrecall : (none <|> some imsi) = some imsi := rfl
    have hname : ((none <|> none) <|> (some name <|> some name)) = some name := rfl
    rw [hrecall, htoldName, hname, publicName?_of_cached hne]
  · have himsiDirty : second.imsiDirty = false := congrArg Ledger.imsiDirty hledger
    have hnameDirty : second.nameDirty = false := congrArg Ledger.nameDirty hledger
    simp [Knowledge.hasPendingWrites, himsiDirty, hnameDirty]

/-- The cache knew the card by another subscription, and a name for that one. -/
theorem next_tracker_recalls_other_subscription :
    let card : Modem := { Modem.atHome with iccid := some "8902" }
    let next : Modem := { path := "/ril_0", iccid := some "8902" }
    VolatileStore.knowing8902.available = true ∧ known card.iccid = some "8902" ∧
      known card.imsi = some "00101" ∧ known card.spn = some "Card" ∧
      known next.iccid = some "8902" ∧ known next.imsi = none ∧ known next.spn = none ∧
      next.network = none ∧
      let first := Run.start {} card VolatileStore.knowing8902
      let second := Run.start {} next first.release.store
      second.identity =
          { path := "/ril_0", iccid := some "8902", imsi := some "00101", spn := some "Card" } ∧
        second.hasPendingWrites = false ∧
        second.store.committed = first.store.committed ∧
        ∀ address, second.store.get? address = first.store.get? address := by
  intro card next
  have hiccid : known card.iccid = some "8902" := by decide
  have himsi : known card.imsi = some "00101" := by decide
  have hspn : known card.spn = some "Card" := by decide
  have hsame : known next.iccid = some "8902" := by decide
  refine ⟨rfl, hiccid, himsi, hspn, hsame, rfl, rfl, rfl, ?_⟩
  exact @next_tracker_recalls_card {} card next VolatileStore.knowing8902 _ _ _ rfl hiccid himsi
    hspn hsame rfl rfl rfl

/-- **A tracker that is made anew shows the same.** Let a tracker be made for a modem and be
released, and another one be made for the same modem. It shows the same identity, but for the cards
of `ShowsForeignName`. -/
theorem restart_shows_same_identity_iff (cfg : Config) (modem : Modem) {store : VolatileStore}
    (h : store.available = true) :
    let first := Run.start cfg modem store
    let second := Run.start cfg modem first.release.store
    second.identity = first.identity ↔ ¬ ShowsForeignName (store.cached cfg) modem := by
  intro first second
  have havailable : first.store.available = true := (Run.uses_start cfg modem store).available h
  have hfirst : second.identity = firstIdentity (first.ledger cfg).entries modem :=
    Run.identity_start cfg modem havailable
  rw [hfirst, Run.identity_start cfg modem h]
  exact firstIdentity_again_iff (Run.ledger_start h modem).symm

/-- A card that has a name of its own is shown under it each time. -/
theorem restart_shows_same_name_of_card :
    VolatileStore.knowing8902.available = true ∧
      let first := Run.start {} { Modem.atHome with iccid := some "8902" } VolatileStore.knowing8902
      let second := Run.start {} { Modem.atHome with iccid := some "8902" } first.release.store
      second.identity = first.identity := by
  refine ⟨rfl, (@restart_shows_same_identity_iff {} { Modem.atHome with iccid := some "8902" }
    VolatileStore.knowing8902 rfl).2 ?_⟩
  rintro ⟨-, -, hnames, -, -, -⟩
  exact absurd hnames (by decide)

/-- The cache knows the card by the subscription 00102, under the name New. The card reports another
one, and is shown as New until the next start. -/
theorem restart_loses_foreign_name :
    let card : Modem := { path := "/ril_0", iccid := some "8902", imsi := some "00101" }
    let first := Run.start {} card VolatileStore.knowing8902
    let second := Run.start {} card first.release.store
    VolatileStore.knowing8902.available = true ∧ first.identity.imsi = some "00101" ∧
      first.identity.spn = some "New" ∧ second.identity.spn = none := by
  decide +kernel

end SimIdentity
