import SimIdentity.Proofs.Authority
import SimIdentity.Proofs.Candor
import SimIdentity.Proofs.Delivery
import SimIdentity.Proofs.Pending
import SimIdentity.Proofs.Settled
import SimIdentity.Proofs.Swap

/-!
# The order of two reports

A card reports its serial number and its subscription one after the other, in either order. Both
reports make the tracker ask the cache, each for something else, and take over what it tells: the
serial number brings the subscription with it that the cache knows for the card, and the
subscription its name.

If the serial number comes last, then so does the subscription that the cache knows. It takes the
place of the one that was reported, as it does after every change of the card, and stays there until
the modem reports its own once more.

## What is proved

`reports_commute_iff`: the card and its subscription can be reported to a new tracker in either
order, unless the cache knows another subscription for the card. In that case the one reported is
tracked if it was reported last, and the other one if the card was.
-/

namespace SimIdentity

/-! ### The two orders in a ledger -/

namespace Ledger

variable {entries : Cache.Entry → Option String} {committed : Nat} {modem : Modem}
  {iccid imsi : String}

/-- A modem that shows nothing leaves a blank ledger blank. -/
theorem observeAll_of_silent (path : String) (entries : Cache.Entry → Option String)
    (committed : Nat) :
    Ledger.observeAll { path } { entries, committed } = { entries, committed } := rfl

/-- Only the subscription is known yet, and the name that the cache tells for it. -/
def unidentified (imsi : String) (entries : Cache.Entry → Option String) (committed : Nat) :
    Ledger where
  imsi := some imsi
  cachedName := toldName entries (some imsi)
  imsiDirty := true
  entries := entries
  committed := committed

/-- Without a serial number, the subscription has to wait, but the cache tells its name. -/
theorem adoptImsi_blank (himsi : imsi ≠ "") :
    Ledger.adoptImsi imsi { entries, committed } = unidentified imsi entries committed := by
  simp only [Ledger.adoptImsi]
  rw [if_neg (Option.some_ne_none imsi).symm]
  show persistName (recallName { entries, committed, imsi := some imsi, imsiDirty := true }) = _
  simp only [Ledger.recallName, unidentified, toldName, Option.bind_some]
  rw [known_some himsi]
  dsimp only
  cases known (entries (.nameOf imsi)) with
  | none => exact persistName_of_clean rfl
  | some name => exact persistName_of_clean rfl

/-- The subscription is reported after the card. -/
theorem observeImsi_observeIccid (hiccid : known modem.iccid = some iccid)
    (himsi : known modem.imsi = some imsi)
    (htold : ∀ other, known (entries (.imsiOf iccid)) = some other → other = imsi) :
    ((Ledger.observeIccid modem { entries, committed }).observeImsi modem).cachedName =
      toldName entries (some imsi) := by
  have hne : imsi ≠ "" := (known_eq_some_iff.1 himsi).2
  rw [observeIccid_blank, hiccid]
  simp only [Ledger.observeImsi, toldImsi, Option.bind_some]
  rw [himsi]
  dsimp only
  cases hother : known (entries (.imsiOf iccid)) with
  | some other =>
    rw [htold other hother]
    exact congrArg cachedName (if_pos rfl)
  | none =>
    have hnew : ({ entries, committed, iccid := some iccid } : Ledger).imsi ≠ some imsi :=
      (Option.some_ne_none imsi).symm
    obtain ⟨settled, -, -, hname, -, -, hadopt⟩ :=
      adoptImsi_of_waiting hne hnew rfl rfl (Option.some_ne_none "").symm
    show (Ledger.adoptImsi imsi { entries, committed, iccid := some iccid }).cachedName = _
    rw [hadopt, ite_self]
    exact hname

/-- The card is reported after the subscription. -/
theorem observeIccid_observeImsi (entries : Cache.Entry → Option String) (committed : Nat)
    (hiccid : known modem.iccid = some iccid)
    (himsi : known modem.imsi = some imsi) :
    let last := (Ledger.observeImsi modem { entries, committed }).observeIccid modem
    last.imsi = (known (entries (.imsiOf iccid)) <|> some imsi) ∧
      ((∀ other, known (entries (.imsiOf iccid)) = some other → other = imsi) →
        last.cachedName = toldName entries (some imsi)) := by
  have hne : imsi ≠ "" := (known_eq_some_iff.1 himsi).2
  simp only [Ledger.observeImsi]
  rw [himsi]
  dsimp only
  rw [adoptImsi_blank hne]
  have hnew : (unidentified imsi entries committed).iccid ≠ some iccid :=
    (Option.some_ne_none iccid).symm
  rcases observeIccid_of_new hiccid hnew with ⟨hsame, hobserve⟩ | ⟨told, htold, hother, hobserve⟩
  · have hecho :
        EchoesName { unidentified imsi entries committed with iccid := some iccid } := by
      intro imsi' name himsi' hname
      cases (known_some hne).symm.trans himsi'
      exact hname
    rw [hobserve, recallName_of_echo hecho]
    refine ⟨?_, fun _ => rfl⟩
    cases htold : known (entries (.imsiOf iccid)) with
    | none => rfl
    | some told => exact hsame told htold
  · have hrecall := (Renames.refl { unidentified imsi entries committed with
      iccid := some iccid, imsi := some told, imsiDirty := false }).recallName
    rw [hobserve]
    refine ⟨?_, fun hnone => absurd (hnone told htold) fun hsame => hother ?_⟩
    · rw [hrecall.imsi_eq]
      exact (congrArg (· <|> some imsi) htold).symm
    · rw [hsame]
      rfl

end Ledger

/-! ### The two orders in a run -/

variable {cfg : Config} {modem : Modem} {iccid imsi : String}

theorem Run.fallback_refreshFallback {σ : Type} (modem : Modem) (run : Run σ) :
    (run.refreshFallback modem).fallback = modem.fallbackName := by
  obtain ⟨_, _, _, hrefresh⟩ := refreshFallback_touches modem run
  rw [hrefresh]

/-- With a subscription the fallback name is looked at, and only then. -/
theorem Run.recallImsi_cases {σ : Type} [StringStore σ] (cfg : Config) (modem : Modem)
    (iccid : String) (run : Run σ) :
    let after := run.recallImsi cfg modem iccid
    (after.identity.imsi = run.identity.imsi ∧ after.fallback = run.fallback) ∨
      (∃ imsi, after.identity.imsi = some imsi) ∧ after.fallback = modem.fallbackName := by
  obtain ⟨outcome, store, trail, -, hlookup⟩ := lookup_touches cfg (.imsiOf iccid) run
  simp only [recallImsi]
  rw [hlookup]
  cases outcome with
  | missing => exact .inl ⟨rfl, rfl⟩
  | unreadable => exact .inl ⟨rfl, rfl⟩
  | found imsi =>
    dsimp only
    split
    · exact .inl ⟨rfl, rfl⟩
    · have hother : Signal.imsi ≠ .spn := Signal.noConfusion
      refine .inr ⟨⟨imsi, ?_⟩, fallback_refreshFallback modem _⟩
      exact (part_refreshFallback modem hother _).trans
        (congrArg Identity.imsi (quiet_persistImsi cfg _).1)

/-- The fallback name of the modem is kept when a card is recalled. -/
theorem Run.fallback_observeIccid {σ : Type} [StringStore σ] {run : Run σ} (cfg : Config)
    (hiccid : known modem.iccid = some iccid) (h : run.fallback = modem.fallbackName) :
    (run.observeIccid cfg modem).fallback = modem.fallbackName := by
  simp only [observeIccid]
  split
  · exact h
  · rw [hiccid]
    dsimp only
    rw [recallCard, (recallName_touches cfg _).fallback_eq]
    rcases recallImsi_cases cfg modem iccid
      (({ run with identity.iccid := some iccid } : Run σ).queue .iccid) with
      ⟨-, hfallback⟩ | ⟨-, hfallback⟩
    · exact hfallback.trans h
    · exact hfallback

section Handle

variable {σ : Type} [StringStore σ]

/-- After a report of the serial number it is the one that the modem shows. -/
theorem Run.iccid_handle_iccid (cfg : Config) (modem : Modem) (run : Run σ) :
    (run.handle cfg modem .iccid).identity.iccid = known modem.iccid := by
  have hobserve := iccid_observeIccid cfg modem
    ((run.retryWrites cfg).note (.iccidReported modem.iccid))
  simp only [handle, observe]
  generalize ((run.retryWrites cfg).note (.iccidReported modem.iccid)).observeIccid cfg modem = seen
    at hobserve ⊢
  exact hobserve

/-- The fallback name is kept if it is the modem's already. -/
theorem Run.fallback_handle_iccid (hiccid : known modem.iccid = some iccid) {run : Run σ}
    (h : run.fallback = modem.fallbackName) :
    (run.handle cfg modem .iccid).fallback = modem.fallbackName := by
  obtain ⟨_, _, _, _, _, hretry⟩ := retryWrites_touches cfg run
  have hretried : ((run.retryWrites cfg).note (.iccidReported modem.iccid)).fallback =
      modem.fallbackName := by
    rw [hretry]
    exact h
  have hobserve := fallback_observeIccid cfg hiccid hretried
  simp only [handle, observe]
  generalize ((run.retryWrites cfg).note (.iccidReported modem.iccid)).observeIccid cfg modem = seen
    at hobserve ⊢
  exact hobserve

/-- After a report of the subscription it is the one that the modem shows, if there is one. -/
theorem Run.handle_imsi (cfg : Config) (modem : Modem) (run : Run σ) :
    (run.handle cfg modem .imsi).identity.iccid = run.identity.iccid ∧
      (run.handle cfg modem .imsi).identity.imsi = (known modem.imsi <|> run.identity.imsi) ∧
      (run.handle cfg modem .imsi).fallback = modem.fallbackName := by
  obtain ⟨_, hobserve⟩ := observeImsi_touches cfg modem (run.retryWrites cfg)
  obtain ⟨_, _, _, _, _, hretry⟩ := retryWrites_touches cfg run
  have hiccid := hobserve.iccid_eq
  have himsi := hobserve.imsi_eq
  have hfallback := hobserve.fallback_eq
  simp only [handle, observe]
  generalize (run.retryWrites cfg).observeImsi cfg modem = seen at hiccid himsi hfallback ⊢
  rw [hretry] at hiccid himsi
  exact ⟨hiccid, himsi, hfallback⟩

/-- A card without a name of its own has none after a report about something else. -/
theorem Run.cardName_handle {run : Run σ} (h : run.cardName = none) {change : Change}
    (hchange : change ≠ .spn) : (run.handle cfg modem change).cardName = none := by
  have hreads : (Call.report change).readsName = false := by
    cases change with
    | spn => exact absurd rfl hchange
    | _ => rfl
  have hperform := cardName_perform cfg modem (.report change) run
  rw [hreads, h, ite_self] at hperform
  exact hperform

end Handle

section Blank

variable {run : Run VolatileStore} {entries : Cache.Entry → Option String} {committed : Nat}
  (h : Reachable cfg run) (havailable : run.store.available = true)
  (hblank : run.ledger cfg = { entries, committed }) (hiccid : known modem.iccid = some iccid)
  (himsi : known modem.imsi = some imsi)
include h havailable hblank hiccid himsi

/-- The subscription is reported last, and so it is the one that is tracked. -/
theorem Reachable.handle_iccid_imsi :
    let last := (run.handle cfg modem .iccid).handle cfg modem .imsi
    last.identity.iccid = some iccid ∧ last.identity.imsi = some imsi ∧ last.cardName = none ∧
      last.fallback = modem.fallbackName ∧
      ((∀ other, known (entries (.imsiOf iccid)) = some other → other = imsi) →
        last.cachedName = Ledger.toldName entries (some imsi)) := by
  intro last
  have hfirst := h.perform modem (.report .iccid)
  have hstored := (Run.uses_perform cfg modem (.report .iccid) run).available havailable
  have hledger : last.ledger cfg = ((run.ledger cfg).observeIccid modem).observeImsi modem :=
    (hfirst.ledger_perform hstored modem (.report .imsi)).trans
      (congrArg (Ledger.observeImsi modem) (h.ledger_perform havailable modem (.report .iccid)))
  rw [hblank] at hledger
  have hcard : run.cardName = none := (congrArg Ledger.cardName hblank :)
  obtain ⟨hiccid', himsi', hfallback⟩ := Run.handle_imsi cfg modem (run.handle cfg modem .iccid)
  rw [Run.iccid_handle_iccid, hiccid] at hiccid'
  rw [himsi] at himsi'
  refine ⟨hiccid', himsi', ?_, hfallback, fun htold => ?_⟩
  · exact Run.cardName_handle (Run.cardName_handle hcard (by decide)) (by decide)
  · exact (congrArg Ledger.cachedName hledger).trans
      (Ledger.observeImsi_observeIccid hiccid himsi htold)

/-- The card is reported last, and so the cache has the last word. -/
theorem Reachable.handle_imsi_iccid :
    let last := (run.handle cfg modem .imsi).handle cfg modem .iccid
    last.identity.iccid = some iccid ∧
      last.identity.imsi = (known (entries (.imsiOf iccid)) <|> some imsi) ∧
      last.cardName = none ∧ last.fallback = modem.fallbackName ∧
      ((∀ other, known (entries (.imsiOf iccid)) = some other → other = imsi) →
        last.cachedName = Ledger.toldName entries (some imsi)) := by
  intro last
  have hfirst := h.perform modem (.report .imsi)
  have hstored := (Run.uses_perform cfg modem (.report .imsi) run).available havailable
  have hledger : last.ledger cfg = ((run.ledger cfg).observeImsi modem).observeIccid modem :=
    (hfirst.ledger_perform hstored modem (.report .iccid)).trans
      (congrArg (Ledger.observeIccid modem) (h.ledger_perform havailable modem (.report .imsi)))
  rw [hblank] at hledger
  have hcard : run.cardName = none := (congrArg Ledger.cardName hblank :)
  obtain ⟨-, -, hfallback⟩ := Run.handle_imsi cfg modem run
  obtain ⟨himsi', hname⟩ := Ledger.observeIccid_observeImsi entries committed hiccid himsi
  refine ⟨?_, (congrArg Ledger.imsi hledger).trans himsi', ?_,
    Run.fallback_handle_iccid hiccid hfallback, fun htold => ?_⟩
  · exact (Run.iccid_handle_iccid cfg modem _).trans hiccid
  · exact Run.cardName_handle (Run.cardName_handle hcard (by decide)) (by decide)
  · exact (congrArg Ledger.cachedName hledger).trans (hname htold)

end Blank

/-- **Two reports in either order.** Let a tracker begin with a modem that shows nothing, over a
memory with any texts that can be reached at all times. The modem comes to show anything, a serial
number and a subscription among it, and reports the two one after the other. Then the serial number
is tracked in the end. So is the subscription, if it was reported last. If the card was, then it is
the one that the cache knows for the card, should there be one. The orders have the same outcome, to
the name shown, exactly if the cache knows no other subscription for the card than the one shown. -/
theorem reports_commute_iff (cfg : Config) (path : String) {store : VolatileStore}
    (havailable : store.available = true) (hiccid : known modem.iccid = some iccid)
    (himsi : known modem.imsi = some imsi) :
    let blank := Run.start cfg { path } store
    let imsiLast := (blank.handle cfg modem .iccid).handle cfg modem .imsi
    let iccidLast := (blank.handle cfg modem .imsi).handle cfg modem .iccid
    let told := known (store.cached cfg (.imsiOf iccid))
    imsiLast.identity.iccid = some iccid ∧ iccidLast.identity.iccid = some iccid ∧
      imsiLast.identity.imsi = some imsi ∧ iccidLast.identity.imsi = (told <|> some imsi) ∧
      (imsiLast.identity = iccidLast.identity ↔ ∀ other, told = some other → other = imsi) := by
  intro blank imsiLast iccidLast told
  have hblank : Reachable cfg blank := .start { path } store
  have hstored : blank.store.available = true :=
    (Run.uses_start cfg { path } store).available havailable
  have hledger : blank.ledger cfg = { entries := store.cached cfg, committed := store.committed } :=
    (Run.ledger_start havailable { path }).trans (Ledger.observeAll_of_silent path _ _)
  have hlast₁ : Reachable cfg imsiLast :=
    (hblank.perform modem (.report .iccid)).perform modem (.report .imsi)
  have hlast₂ : Reachable cfg iccidLast :=
    (hblank.perform modem (.report .imsi)).perform modem (.report .iccid)
  obtain ⟨hiccid₁, himsi₁, hcard₁, hfallback₁, hname₁⟩ :=
    hblank.handle_iccid_imsi hstored hledger hiccid himsi
  obtain ⟨hiccid₂, himsi₂, hcard₂, hfallback₂, hname₂⟩ :=
    hblank.handle_imsi_iccid hstored hledger hiccid himsi
  refine ⟨hiccid₁, hiccid₂, himsi₁, himsi₂, fun hsame other hother => ?_, fun htold => ?_⟩
  · -- the subscriptions are the same, so the one that the cache knows is the one shown
    have himsi' : (told <|> some imsi) = some imsi :=
      himsi₂.symm.trans ((congrArg Identity.imsi hsame).symm.trans himsi₁)
    rw [hother] at himsi'
    exact Option.some.inj himsi'
  · refine Identity.eq_of_part ?_ fun signal => ?_
    · exact (Run.path_performAll cfg [(modem, .report .iccid), (modem, .report .imsi)] blank).trans
        (Run.path_performAll cfg [(modem, .report .imsi), (modem, .report .iccid)] blank).symm
    · cases signal with
      | iccid => exact hiccid₁.trans hiccid₂.symm
      | imsi =>
        refine himsi₁.trans (Eq.trans ?_ himsi₂.symm)
        cases hother : known (store.cached cfg (.imsiOf iccid)) with
        | none => rfl
        | some other => rw [htold other hother]; rfl
      | spn =>
        have hspn₁ := hlast₁.coherent.spn_eq
        have hspn₂ := hlast₂.coherent.spn_eq
        rw [hcard₁, hname₁ htold, hfallback₁] at hspn₁
        rw [hcard₂, hname₂ htold, hfallback₂] at hspn₂
        exact hspn₁.trans hspn₂.symm

/-- The cache knows the card as it is, and a name for it. -/
theorem known_card_reported_in_either_order :
    let card : Modem := { path := "/ril_0", iccid := some "8902", imsi := some "00102" }
    let blank := Run.start {} { path := "/ril_0" } VolatileStore.knowing8902
    let imsiLast := (blank.handle {} card .iccid).handle {} card .imsi
    let iccidLast := (blank.handle {} card .imsi).handle {} card .iccid
    VolatileStore.knowing8902.available = true ∧ known card.iccid = some "8902" ∧
      known card.imsi = some "00102" ∧ imsiLast.identity = iccidLast.identity ∧
      imsiLast.identity.spn = some "New" := by
  have htold : known (VolatileStore.knowing8902.cached {} (.imsiOf "8902")) = some "00102" := by
    decide +kernel
  have hsame := @reports_commute_iff
    { path := "/ril_0", iccid := some "8902", imsi := some "00102" } "8902" "00102" {} "/ril_0"
    VolatileStore.knowing8902 rfl (by decide +kernel) (by decide +kernel)
  refine ⟨rfl, by decide +kernel, by decide +kernel, hsame.2.2.2.2.2 fun other hother => ?_,
    by decide +kernel⟩
  exact Option.some.inj (hother.symm.trans htold)

/-- The cache knows another subscription for the card. If the card is reported last, this one is
tracked in the end, and not the one that the modem shows. -/
theorem cached_subscription_replaces_reported_one :
    let card : Modem := { path := "/ril_0", iccid := some "8902", imsi := some "00101" }
    let blank := Run.start {} { path := "/ril_0" } VolatileStore.knowing8902
    let imsiLast := (blank.handle {} card .iccid).handle {} card .imsi
    let iccidLast := (blank.handle {} card .imsi).handle {} card .iccid
    VolatileStore.knowing8902.available = true ∧ imsiLast.identity.imsi = some "00101" ∧
      iccidLast.identity.imsi = some "00102" ∧ imsiLast.identity ≠ iccidLast.identity := by
  decide +kernel

end SimIdentity
