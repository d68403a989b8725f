import SimIdentity.Proofs.Coherence
import SimIdentity.Proofs.Work

/-!
# The name on the card comes first

Four ways lead to the cached name: the card reports a name, the network gives the operator's, the
cache tells one, and a card that is gone takes its name with it. Once the card itself has reported
a name, none of the others may bring in another one.

## The invariant

`Run.CardFirst` says that whenever a name was saved while the card had one, it was the card's. A
save relies on the name on the card being the cached one (`CardFirst.persistName`). Soundness says
so, but not at every moment: a new name on the card is there before it becomes the cached one.
Nothing is saved in between (`CardFirst.adoptCardName`).

## What is proved

* `cardName_perform`: what becomes of the name on the card in a call.
* `card_name_is_authoritative`: a name on the card is also the cached one and the one shown, and
  stays it until the card reports another name or is gone. No other name is saved as long as it is
  known.
-/

namespace SimIdentity

/-- If a name was saved at that moment, and the card had one, then it was the card's. -/
def TrailEntry.SavesCardName (moment : TrailEntry) : Prop :=
  ∀ imsi text outcome name, moment.event = .saved (.nameOf imsi) text outcome →
    moment.context.cardName = some name → text = name

variable {σ : Type}

/-- No other name than the card's was saved while the card had one. -/
def Run.CardFirst (run : Run σ) : Prop := ∀ moment ∈ run.trail, moment.SavesCardName

/-- Sound knowledge has no other name in the cache than the one on the card. -/
theorem Knowledge.Sound.cachedName_of_cardName {knowledge : Knowledge} (h : knowledge.Sound)
    {name : String} (hname : knowledge.cardName = some name) : knowledge.cachedName = some name := by
  rw [← hname]
  exact h.cachedName_eq (by rw [hname]; exact Option.some_ne_none name)

namespace Run.CardFirst

variable {run : Run σ}

/-! ### Each step keeps the invariant -/

theorem note (h : run.CardFirst) (event : Event)
    (hevent : TrailEntry.SavesCardName ⟨run.toKnowledge, event⟩) :
    (run.note event).CardFirst := by
  intro moment hmoment
  rcases List.mem_append.1 hmoment with hmoment | hmoment
  · exact h moment hmoment
  · rw [List.mem_singleton.1 hmoment]
    exact hevent

/-- Where nothing is saved, nothing can go wrong. -/
theorem remark (h : run.CardFirst) (event : Event) (hevent : event.IsRemark) :
    (run.note event).CardFirst := by
  refine h.note event fun imsi text outcome name hsaved => ?_
  subst hsaved
  exact hevent.elim

theorem refreshPublicName (h : run.CardFirst) : run.refreshPublicName.CardFirst := by
  simp only [Run.refreshPublicName]
  split
  · exact h
  · exact h.remark (.publicNameChanged _) trivial

theorem refreshFallback (h : run.CardFirst) (modem : Modem) :
    (run.refreshFallback modem).CardFirst := by
  simp only [Run.refreshFallback]
  split
  · exact h
  · exact refreshPublicName (h.remark (.fallbackChanged _) trivial)

theorem forgetCard (h : run.CardFirst) : run.forgetCard.CardFirst := by
  have hlost : (run.note .iccidLost).CardFirst := h.remark .iccidLost trivial
  simp only [Run.forgetCard]
  refine refreshPublicName ?_
  split
  · exact hlost
  · exact hlost

variable [StringStore σ] (cfg : Config)

theorem lookup (h : run.CardFirst) (entry : Cache.Entry) :
    (run.lookup cfg entry).2.CardFirst := by
  have hread : ({ run with store := (Cache.lookup cfg entry run.store).2 } : Run σ).CardFirst := h
  exact hread.note _ fun _ _ _ _ hsaved => by cases hsaved

/-- A name may be saved if it is the card's, or if the card has none. -/
theorem save (h : run.CardFirst) (entry : Cache.Entry) (text : String)
    (hown : ∀ imsi name, entry = .nameOf imsi → run.cardName = some name → text = name) :
    (run.save cfg entry text).2.CardFirst := by
  have hstored :
      ({ run with store := (Cache.save cfg entry text run.store).2 } : Run σ).CardFirst := h
  refine hstored.note _ ?_
  intro imsi text' outcome name hsaved hcard
  cases hsaved
  exact hown imsi name rfl hcard

theorem persistImsi (h : run.CardFirst) : (run.persistImsi cfg).CardFirst := by
  simp only [Run.persistImsi]
  split
  case h_1 iccid imsi _ _ _ =>
    have hsaved := h.save cfg (.imsiOf iccid) imsi fun _ _ hentry => by cases hentry
    split
    · exact hsaved
    · exact hsaved
  case h_2 => exact h

/-- What is saved is the cached name, so this has to be the one on the card, if there is one. -/
theorem persistName (h : run.CardFirst)
    (hown : ∀ name, run.cardName = some name → run.cachedName = some name) :
    (run.persistName cfg).CardFirst := by
  simp only [Run.persistName]
  split
  case h_1 imsi name _ _ hname =>
    have hcached : run.cachedName = some name := (known_eq_some_iff.1 hname).1
    have hsaved := h.save cfg (.nameOf imsi) name fun _ own _ hcard =>
      Option.some.inj (hcached.symm.trans (hown own hcard))
    split
    · exact hsaved
    · exact hsaved
  case h_2 => exact h

theorem retryWrites (h : run.CardFirst) (hsound : run.Sound) :
    (run.retryWrites cfg).CardFirst := by
  simp only [Run.retryWrites]
  split
  · have hforgotten : ({ run with writeFailed := false } : Run σ).CardFirst := h
    have hretrying := hforgotten.note .retrying fun _ _ _ _ hsaved => by cases hsaved
    refine (hretrying.persistImsi cfg).persistName cfg ?_
    obtain ⟨_, _, _, _, hpersist⟩ :=
      persistImsi_touches cfg ({ run with writeFailed := false }.note .retrying)
    rw [hpersist]
    exact fun name => hsound.cachedName_of_cardName
  · exact h

/-! ### Names that are taken over -/

/-- The name may be taken over if it is the card's, or if the card has none. -/
theorem adoptName (h : run.CardFirst) {name : String}
    (hown : ∀ own, run.cardName = some own → own = name) : (run.adoptName cfg name).CardFirst := by
  simp only [Run.adoptName]
  split
  · exact h
  · refine refreshPublicName (persistName cfg (h.remark (.nameAdopted name) trivial) ?_)
    exact fun own hcard => congrArg some (hown own hcard).symm

/-- Nothing is saved before the new name on the card has become the cached one. -/
theorem adoptCardName (h : run.CardFirst) (name : String) :
    (run.adoptCardName cfg name).CardFirst := by
  simp only [Run.adoptCardName]
  split
  · exact h
  · have hreported : ({ run.note (.cardNameAdopted name) with
        cardName := some name, nameDirty := true } : Run σ).CardFirst :=
      h.remark (.cardNameAdopted name) trivial
    have hadopted := hreported.adoptName cfg fun own hcard => (Option.some.inj hcard).symm
    refine refreshPublicName (hadopted.persistName cfg ?_)
    obtain ⟨_, _, _, _, _, _, hadopt⟩ := adoptName_touches cfg name
      ({ run.note (.cardNameAdopted name) with cardName := some name, nameDirty := true } : Run σ)
    rw [hadopt]
    exact fun own hcard => hcard

/-- The operator's name is for cards that have none. -/
theorem adoptHomeOperator (h : run.CardFirst) (hsound : run.Sound) (modem : Modem) :
    (run.adoptHomeOperator cfg modem).CardFirst := by
  unfold Run.adoptHomeOperator
  split
  · exact h
  case h_2 name _ =>
    have hnote : (run.note (.homeNetwork name)).CardFirst := h.remark _ trivial
    dsimp only
    split
    case isTrue hcard =>
      have hnone : run.cardName = none := (known_eq_self hsound.cardName_ne).symm.trans hcard
      refine hnote.adoptName cfg fun own hown => ?_
      exact absurd (hnone.symm.trans hown) (Option.some_ne_none own).symm
    case isFalse => exact hnote

theorem recallImsi (h : run.CardFirst) (modem : Modem) (iccid : String) :
    (run.recallImsi cfg modem iccid).CardFirst := by
  have hread := h.lookup cfg (.imsiOf iccid)
  simp only [Run.recallImsi]
  split
  case h_1 imsi read hlookup =>
    rw [hlookup] at hread
    split
    · exact hread
    · refine refreshFallback (persistImsi cfg ?_) modem
      refine remark ?_ (.imsiRecalled iccid imsi) trivial
      split
      · exact hread.remark (.imsiReplaced _ imsi) trivial
      · exact hread
  case h_2 hlookup =>
    rw [hlookup] at hread
    exact hread

/-- If the card has a name, it is this name that is saved, and not the one that the cache tells. -/
theorem recallName (h : run.CardFirst) (hsound : run.Sound) :
    (run.recallName cfg).CardFirst := by
  simp only [Run.recallName]
  split
  · exact h
  case h_2 imsi _ =>
    have hread := h.lookup cfg (.nameOf imsi)
    obtain ⟨outcome, store, trail, -, hlookup⟩ := lookup_touches cfg (.nameOf imsi) run
    rw [hlookup] at hread ⊢
    cases outcome with
    | found name =>
      dsimp only
      split
      · exact hread
      · split
        · refine persistName cfg (hread.remark (.nameOverruled name imsi) trivial) ?_
          exact fun own => hsound.cachedName_of_cardName
        case isFalse hcard =>
          rw [Decidable.not_not, known_eq_self hsound.cardName_ne] at hcard
          refine refreshPublicName (persistName cfg ?_ ?_)
          · refine remark ?_ (.nameRecalled imsi name) trivial
            split
            · exact hread.remark (.nameReplaced _ name) trivial
            · exact hread
          · intro own hown
            have hown : run.cardName = some own := by
              revert hown
              split <;> exact id
            exact absurd (hcard.symm.trans hown) (Option.some_ne_none own).symm
    | missing => exact hread
    | unreadable => exact hread

/-! ### Observing the modem -/

theorem observeIccid (h : run.CardFirst) (hcoherent : run.Coherent) (modem : Modem) :
    (run.observeIccid cfg modem).CardFirst := by
  have hnew : ({ run with identity.iccid := known modem.iccid }.queue .iccid).CardFirst := h
  have hcoherent' :
      (({ run with identity.iccid := known modem.iccid } : Run σ).queue .iccid).Coherent :=
    { hcoherent with iccid_ne := known_ne_empty _ }
  simp only [Run.observeIccid]
  split
  · exact h
  · split
    case h_1 iccid _ =>
      exact (hnew.recallImsi cfg modem iccid).recallName cfg
        (hcoherent'.recallImsi cfg modem iccid).toSound
    case h_2 => exact hnew.forgetCard

theorem adoptImsi (h : run.CardFirst) (hcoherent : run.Coherent) {imsi : String}
    (himsi : imsi ≠ "") : (run.adoptImsi cfg imsi).CardFirst := by
  simp only [Run.adoptImsi]
  split
  · exact h
  · have hnew : ({ run.note (.imsiAdopted imsi) with
        identity.imsi := some imsi, imsiDirty := true } : Run σ).CardFirst :=
      h.remark (.imsiAdopted imsi) trivial
    have hcoherent' : ({ run.note (.imsiAdopted imsi) with
        identity.imsi := some imsi, imsiDirty := true } : Run σ).Coherent :=
      { hcoherent with imsi_ne := fun h' => himsi (Option.some.inj h') }
    have hpersisted := hcoherent'.persistImsi cfg
    refine ((hnew.persistImsi cfg).recallName cfg hpersisted.toSound).persistName cfg ?_
    exact fun own => (hpersisted.recallName cfg).cachedName_of_cardName

theorem observeImsi (h : run.CardFirst) (hcoherent : run.Coherent) (modem : Modem) :
    (run.observeImsi cfg modem).CardFirst := by
  simp only [Run.observeImsi]
  refine refreshFallback ?_ modem
  split
  case h_1 imsi himsi => exact h.adoptImsi cfg hcoherent (known_eq_some_iff.1 himsi).2
  case h_2 => exact h

theorem observeCardName (h : run.CardFirst) (modem : Modem) :
    (run.observeCardName cfg modem).CardFirst := by
  simp only [Run.observeCardName]
  split
  · exact h.adoptCardName cfg _
  · exact h

theorem observeNetwork (h : run.CardFirst) (hsound : run.Sound) (modem : Modem) :
    (run.observeNetwork cfg modem).CardFirst := by
  simp only [Run.observeNetwork]
  split
  · split
    · exact h.adoptHomeOperator cfg hsound modem
    · have hattached : ({ run.note .attached with attached := true } : Run σ).CardFirst :=
        h.remark .attached trivial
      exact hattached.adoptHomeOperator cfg (hsound.congr rfl rfl rfl rfl) modem
  · split
    · exact h.remark .detached trivial
    · exact h

theorem observeAll (h : run.CardFirst) (hcoherent : run.Coherent) (modem : Modem) :
    (run.observeAll cfg modem).CardFirst := by
  have hiccid := hcoherent.observeIccid cfg modem
  have hnetwork := hiccid.observeNetwork cfg modem
  have hname := (hnetwork.observeImsi cfg modem).observeCardName cfg modem
  have h := (h.observeIccid cfg hcoherent modem).observeNetwork cfg hiccid.toSound modem
  have h := (h.observeImsi cfg hnetwork modem).observeCardName cfg modem
  exact h.adoptHomeOperator cfg hname.toSound modem

theorem observe (h : run.CardFirst) (hcoherent : run.Coherent) (modem : Modem)
    (change : Change) : (run.observe cfg modem change).CardFirst := by
  cases change with
  | iccid =>
    exact (h.remark (.iccidReported modem.iccid) trivial).observeIccid cfg
      (hcoherent.congr rfl rfl rfl rfl) modem
  | imsi => exact h.observeImsi cfg hcoherent modem
  | spn => exact h.observeCardName cfg modem
  | network => exact h.observeNetwork cfg hcoherent.toSound modem
  | networkStatus =>
    simp only [Run.observe]
    split
    · exact h.adoptHomeOperator cfg hcoherent.toSound modem
    · exact h

/-! ### Whole runs -/

theorem perform (h : run.CardFirst) (hcoherent : run.Coherent) (modem : Modem) (call : Call) :
    (run.perform cfg modem call).CardFirst := by
  have hretried := hcoherent.retryWrites cfg
  have h := h.retryWrites cfg hcoherent.toSound
  cases call with
  | report change => exact h.observe cfg hretried modem change
  | resync => exact h.observeAll cfg hretried modem

end Run.CardFirst

variable [StringStore σ]

theorem Run.cardFirst_start (cfg : Config) (modem : Modem) (store : σ) :
    (start cfg modem store).CardFirst := by
  have hblank : ({ identity := { path := modem.path }, store } : Run σ).CardFirst :=
    fun moment hmoment => absurd hmoment List.not_mem_nil
  have h := hblank.observeAll cfg (Knowledge.coherent_blank modem.path store) modem
  obtain ⟨sent, hstart⟩ := start_touches cfg modem store
  have hready : ({ observeAll cfg modem { identity := { path := modem.path }, store } with
      due := ∅, sent } : Run σ).CardFirst := h
  rw [hstart]
  exact hready.remark .started trivial

theorem Reachable.cardFirst {cfg : Config} {run : Run σ} (h : Reachable cfg run) :
    run.CardFirst := by
  induction h with
  | start modem store => exact Run.cardFirst_start cfg modem store
  | perform modem call hrun ih => exact ih.perform cfg hrun.coherent modem call

/-! ### What becomes of the name on the card -/

/-- Whether the name on the card is read in the call. -/
def Call.readsName : Call → Bool
  | .report .spn => true
  | .report _ => false
  | .resync => true

namespace Run

variable (cfg : Config)

/-- The card is gone after the call, and was there before. -/
def LosesCard (modem : Modem) (call : Call) (run : Run σ) : Prop :=
  run.identity.iccid ≠ none ∧ (run.perform cfg modem call).identity.iccid = none

instance (modem : Modem) (call : Call) (run : Run σ) : Decidable (run.LosesCard cfg modem call) :=
  inferInstanceAs (Decidable (_ ∧ _))

/-- The name on the card is forgotten with the serial number. -/
theorem cardName_observeIccid (modem : Modem) (run : Run σ) :
    (run.observeIccid cfg modem).cardName =
      if run.identity.iccid ≠ none ∧ known modem.iccid = none then none else run.cardName := by
  simp only [observeIccid]
  split
  case isTrue h =>
    rw [if_neg fun hlost => hlost.1 (h.trans hlost.2)]
  case isFalse h =>
    split
    case h_1 iccid hiccid =>
      obtain ⟨_, _, _, _, _, _, _, _, _, _, hrecall⟩ := recallCard_touches cfg modem iccid
        ({ run with identity.iccid := some iccid }.queue .iccid)
      rw [hiccid, hrecall, if_neg fun hlost => Option.some_ne_none iccid hlost.2]
      rfl
    case h_2 hiccid =>
      obtain ⟨_, _, hforget⟩ := forgetCard_touches
        ({ run with identity.iccid := none }.queue .iccid)
      rw [hiccid] at h
      rw [hiccid, hforget, if_pos ⟨h, rfl⟩]

theorem cardName_observeAll (modem : Modem) (run : Run σ) :
    (run.observeAll cfg modem).cardName =
      (known modem.spn <|>
        if run.identity.iccid ≠ none ∧ known modem.iccid = none then none else run.cardName) := by
  simp only [observeAll]
  obtain ⟨_, himsi⟩ :=
    observeImsi_touches cfg modem ((run.observeIccid cfg modem).observeNetwork cfg modem)
  rw [(adoptHomeOperator_touches cfg modem _).cardName_eq,
    (observeCardName_touches cfg modem _).cardName_eq, himsi.cardName_eq,
    (observeNetwork_touches cfg modem _).cardName_eq, cardName_observeIccid]

theorem iccid_observeAll (modem : Modem) (run : Run σ) :
    (run.observeAll cfg modem).identity.iccid = known modem.iccid := by
  simp only [observeAll]
  obtain ⟨_, himsi⟩ :=
    observeImsi_touches cfg modem ((run.observeIccid cfg modem).observeNetwork cfg modem)
  rw [(adoptHomeOperator_touches cfg modem _).iccid_eq,
    (observeCardName_touches cfg modem _).iccid_eq, himsi.iccid_eq,
    (observeNetwork_touches cfg modem _).iccid_eq, iccid_observeIccid]

theorem cardName_retryWrites (run : Run σ) : (run.retryWrites cfg).cardName = run.cardName := by
  obtain ⟨_, _, _, _, _, hretry⟩ := retryWrites_touches cfg run
  rw [hretry]

theorem iccid_retryWrites (run : Run σ) :
    (run.retryWrites cfg).identity.iccid = run.identity.iccid := by
  obtain ⟨_, _, _, _, _, hretry⟩ := retryWrites_touches cfg run
  rw [hretry]

/-- A call that leaves the serial number alone loses no card. -/
theorem cardName_perform_of_iccid_eq {modem : Modem} {call : Call} {run : Run σ}
    (hiccid : (run.perform cfg modem call).identity.iccid = run.identity.iccid)
    (hcard : (run.perform cfg modem call).cardName =
      ((if call.readsName then known modem.spn else none) <|> run.cardName)) :
    (run.perform cfg modem call).cardName =
      ((if call.readsName then known modem.spn else none) <|>
        if run.LosesCard cfg modem call then none else run.cardName) := by
  have hkept : ¬ run.LosesCard cfg modem call := fun hlost => hlost.1 (hiccid.symm.trans hlost.2)
  rw [if_neg hkept, hcard]

/-- **The name on the card through a call**: it is replaced by what the card reports, if the call
asks for it, and forgotten if the card is lost. Nothing else touches it. -/
theorem cardName_perform (modem : Modem) (call : Call) (run : Run σ) :
    (run.perform cfg modem call).cardName =
      ((if call.readsName then known modem.spn else none) <|>
        if run.LosesCard cfg modem call then none else run.cardName) := by
  have hcard := cardName_retryWrites cfg run
  have hiccid := iccid_retryWrites cfg run
  cases call with
  | resync =>
    have hafter := iccid_observeAll cfg modem (run.retryWrites cfg)
    have hlost : run.LosesCard cfg modem .resync ↔
        run.identity.iccid ≠ none ∧ known modem.iccid = none := by
      rw [← hafter]
      exact Iff.rfl
    refine (cardName_observeAll cfg modem (run.retryWrites cfg)).trans ?_
    simp only [hlost, hcard, hiccid, Call.readsName, if_true]
  | report change =>
    cases change with
    | iccid =>
      have hafter := iccid_observeIccid cfg modem
        ((run.retryWrites cfg).note (.iccidReported modem.iccid))
      have hlost : run.LosesCard cfg modem (.report .iccid) ↔
          run.identity.iccid ≠ none ∧ known modem.iccid = none := by
        rw [← hafter]
        exact Iff.rfl
      refine (cardName_observeIccid cfg modem _).trans ?_
      simp only [note, hlost, hcard, hiccid]
      rfl
    | spn =>
      have htouches := observeCardName_touches cfg modem (run.retryWrites cfg)
      rw [hcard] at htouches
      exact cardName_perform_of_iccid_eq cfg (htouches.iccid_eq.trans hiccid) htouches.cardName_eq
    | imsi =>
      obtain ⟨_, htouches⟩ := observeImsi_touches cfg modem (run.retryWrites cfg)
      exact cardName_perform_of_iccid_eq cfg (htouches.iccid_eq.trans hiccid)
        (htouches.cardName_eq.trans hcard)
    | network =>
      have htouches := observeNetwork_touches cfg modem (run.retryWrites cfg)
      exact cardName_perform_of_iccid_eq cfg (htouches.iccid_eq.trans hiccid)
        (htouches.cardName_eq.trans hcard)
    | networkStatus =>
      have htouches := observe_networkStatus_touches cfg modem (run.retryWrites cfg)
      exact cardName_perform_of_iccid_eq cfg (htouches.iccid_eq.trans hiccid)
        (htouches.cardName_eq.trans hcard)

/-- The call neither reads another name on the card nor loses the card. -/
def SparesCardName (name : String) (modem : Modem) (call : Call) (run : Run σ) : Prop :=
  (call.readsName = true → ∀ other, known modem.spn = some other → other = name) ∧
    ¬ run.LosesCard cfg modem call

/-- A name on the card outlasts the calls that spare it. -/
theorem cardName_perform_of_spares {name : String} {modem : Modem} {call : Call} {run : Run σ}
    (hname : run.cardName = some name) (h : run.SparesCardName cfg name modem call) :
    (run.perform cfg modem call).cardName = some name := by
  rw [cardName_perform, if_neg h.2, hname]
  split
  case isTrue hreads =>
    cases hspn : known modem.spn with
    | none => rfl
    | some other => rw [h.1 hreads other hspn]; rfl
  case isFalse => rfl

theorem cardName_performAll_of_spares {name : String} {run : Run σ} {calls : List (Modem × Call)}
    (hname : run.cardName = some name)
    (h : ∀ before modem call after, calls = before ++ (modem, call) :: after →
      (run.performAll cfg before).SparesCardName cfg name modem call) :
    (run.performAll cfg calls).cardName = some name := by
  induction calls generalizing run with
  | nil => exact hname
  | cons head rest ih =>
    obtain ⟨modem, call⟩ := head
    refine ih (cardName_perform_of_spares cfg hname (h [] modem call rest rfl)) ?_
    intro before modem' call' after hrest
    exact h ((modem, call) :: before) modem' call' after (congrArg ((modem, call) :: ·) hrest)

end Run

/-- **The name on the card is authoritative.** Over any stores: while a card is known by its own
name, this name is not empty, it is the cached one and the one shown, and whenever a name was saved,
it was this one. A call that reads a name on the card ends with it. From then on it is shown, until
a call reads another name on the card, or the card is gone. -/
theorem card_name_is_authoritative {cfg : Config} {run : Run σ} (h : Reachable cfg run) :
    (∀ name, run.cardName = some name →
        name ≠ "" ∧ run.cachedName = some name ∧ run.identity.spn = some name) ∧
      (∀ moment ∈ run.trail, moment.SavesCardName) ∧
      (∀ modem call name, call.readsName = true → known modem.spn = some name →
        (run.perform cfg modem call).cardName = some name) ∧
      ∀ name, run.cardName = some name → ∀ calls : List (Modem × Call),
        (∀ before modem call after, calls = before ++ (modem, call) :: after →
          (run.performAll cfg before).SparesCardName cfg name modem call) →
        (run.performAll cfg calls).cardName = some name ∧
          (run.performAll cfg calls).identity.spn = some name := by
  refine ⟨fun name hname => ⟨?_, ?_, ?_⟩, h.cardFirst, ?_, ?_⟩
  · rintro rfl
    exact h.coherent.cardName_ne hname
  · exact h.coherent.cachedName_of_cardName hname
  · exact h.coherent.spn_of_cardName hname
  · intro modem call name hreads hspn
    rw [Run.cardName_perform, if_pos hreads, hspn]
    rfl
  · intro name hname calls hspares
    have hkept := Run.cardName_performAll_of_spares cfg hname hspares
    exact ⟨hkept, (h.performAll calls).coherent.spn_of_cardName hkept⟩

/-- A card without a name of its own is put in, in its home network and known to the cache by the
operator's name. The name of the card at home is still shown, and takes the place of the other one
in the cache. -/
theorem card_name_outlasts_swap :
    let other : Modem :=
      { path := "/ril_0", iccid := some "8902", imsi := some "00202"
        card := some { state := .ready, mcc := some "002", mnc := some "02" }
        network := some
          { status := .registered, mcc := some "002", mnc := some "02", name := some "Other" } }
    let entry := Cache.Entry.nameOf "00202"
    let run := Run.start {} Modem.atHome
      ((∅ : VolatileStore).insert (entry.address {}) "Other")
    let later := run.performAll {} [(other, .resync)]
    Reachable {} run ∧ later.identity.iccid = some "8902" ∧ later.identity.spn = some "Card" ∧
      later.store.get? (entry.address {}) = some "Card" := by
  intro other entry run later
  have hreachable : Reachable {} run := .start _ _
  have hcard : run.cardName = some "Card" := by decide +kernel
  obtain ⟨-, -, -, hspares⟩ := card_name_is_authoritative hreachable
  have hspn : later.identity.spn = some "Card" := by
    refine (hspares "Card" hcard _ ?_).2
    intro before modem call after hcalls
    obtain ⟨rfl, hhead⟩ | ⟨_, -, hrest⟩ := List.cons_eq_append_iff.1 hcalls
    · obtain ⟨rfl, rfl⟩ := Prod.mk.inj (List.cons.inj hhead).1
      refine ⟨fun _ name hname => ?_, by decide +kernel⟩
      exact absurd hname (Option.some_ne_none name).symm
    · exact absurd hrest.symm (List.append_ne_nil_of_right_ne_nil _ (List.cons_ne_nil _ _))
  exact ⟨hreachable, by decide +kernel, hspn, by decide +kernel⟩

end SimIdentity
