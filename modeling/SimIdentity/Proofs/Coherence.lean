import SimIdentity.Proofs.Footprint
import SimIdentity.Proofs.Reachable
import SimIdentity.Store.Volatile

/-!
# The parts of a tracker's knowledge fit together

Three sources compete for the name to show, six functions change them, and several of these
stop early, call one another or fail on storage half way. Whatever happens, at the end of a
call the name shown is the one that the sources give.

## The invariant

`Knowledge.Sound` says that nothing is known as an empty text, and that a name on the card is
also the cached one. `Knowledge.Coherent` adds that the name shown is chosen from the sources
as they are. Soundness is kept at every moment; coherence is lost while a source is being
replaced and comes back with `refreshPublicName`, whatever was shown before
(`Sound.refreshPublicName`).

## What is proved

`Reachable.coherent`: every reachable run is coherent, over any stores. From it,
`shown_name_is_first_known` reads off what there is to see from outside.
-/

namespace SimIdentity

namespace Knowledge

/-- Nothing is known as an empty text, and a name on the card is the cached one. -/
structure Sound (knowledge : Knowledge) : Prop where
  /-- The serial number is not empty. -/
  iccid_ne : knowledge.identity.iccid ≠ some ""
  /-- The subscription is not empty. -/
  imsi_ne : knowledge.identity.imsi ≠ some ""
  /-- The name on the card is not empty. -/
  cardName_ne : knowledge.cardName ≠ some ""
  /-- The cached name is not empty. -/
  cachedName_ne : knowledge.cachedName ≠ some ""
  /-- A name on the card is the cached name. -/
  cachedName_eq : knowledge.cardName ≠ none → knowledge.cachedName = knowledge.cardName

/-- Sound knowledge in which the name shown is the one that the sources give. -/
structure Coherent (knowledge : Knowledge) : Prop extends Sound knowledge where
  /-- The name shown is chosen from the sources. -/
  spn_eq : knowledge.identity.spn =
    publicName? knowledge.cardName knowledge.cachedName knowledge.fallback

variable {σ : Type}

/-! ### Soundness, and how coherence comes back -/

/-- Soundness is about what is known of the card, and not about what is still to be done. -/
theorem Sound.congr {k l : Knowledge} (h : k.Sound) (hiccid : l.identity.iccid = k.identity.iccid)
    (himsi : l.identity.imsi = k.identity.imsi) (hcard : l.cardName = k.cardName)
    (hcached : l.cachedName = k.cachedName) : l.Sound := by
  obtain ⟨h₁, h₂, h₃, h₄, h₅⟩ := h
  refine ⟨?_, ?_, ?_, ?_, ?_⟩
  · rw [hiccid]; exact h₁
  · rw [himsi]; exact h₂
  · rw [hcard]; exact h₃
  · rw [hcached]; exact h₄
  · rw [hcard, hcached]; exact h₅

theorem Coherent.congr {k l : Knowledge} (h : k.Coherent) (hidentity : l.identity = k.identity)
    (hcard : l.cardName = k.cardName) (hcached : l.cachedName = k.cachedName)
    (hfallback : l.fallback = k.fallback) : l.Coherent where
  toSound := h.toSound.congr (by rw [hidentity]) (by rw [hidentity]) hcard hcached
  spn_eq := by rw [hidentity, hcard, hcached, hfallback]; exact h.spn_eq

/-- Choosing the name anew makes sound knowledge coherent, whatever name was shown. -/
theorem Sound.refreshPublicName {run : Run σ} (h : run.Sound) : run.refreshPublicName.Coherent := by
  obtain ⟨_, _, hrun⟩ := Run.refreshPublicName_touches run
  rw [hrun]
  exact ⟨h.congr rfl rfl rfl rfl, rfl⟩

/-- A card that is known by its own name has no other name. -/
theorem Coherent.spn_of_cardName {knowledge : Knowledge} (h : knowledge.Coherent) {name : String}
    (hname : knowledge.cardName = some name) : knowledge.identity.spn = some name := by
  have hknown : known (some name) = some name := known_eq_self (hname ▸ h.cardName_ne)
  rw [h.spn_eq, hname, publicName?_eq, hknown]
  rfl

/-- If there is a cached name, it is the one shown, whether the card has a name of its own or not. -/
theorem Coherent.spn_of_cachedName {knowledge : Knowledge} (h : knowledge.Coherent) {name : String}
    (hname : knowledge.cachedName = some name) : knowledge.identity.spn = some name := by
  cases hcard : knowledge.cardName with
  | some text =>
    have hsame : knowledge.cachedName = knowledge.cardName :=
      h.cachedName_eq (by rw [hcard]; exact Option.some_ne_none text)
    exact h.spn_of_cardName (hsame.symm.trans hname)
  | none =>
    have hknown : known (some name) = some name := known_eq_self (hname ▸ h.cachedName_ne)
    rw [h.spn_eq, hcard, hname, publicName?_eq, hknown]
    rfl

/-! ### Each step keeps the invariant -/

theorem Coherent.refreshFallback {run : Run σ} (h : run.Coherent) (modem : Modem) :
    (run.refreshFallback modem).Coherent := by
  simp only [Run.refreshFallback]
  split
  · exact h
  · exact Sound.refreshPublicName (h.toSound.congr rfl rfl rfl rfl)

theorem Coherent.forgetCard {run : Run σ} (h : run.Coherent) : run.forgetCard.Coherent := by
  simp only [Run.forgetCard]
  apply Sound.refreshPublicName
  refine ⟨?_, by simp, by simp, by simp, by simp⟩
  dsimp only
  split
  · exact h.iccid_ne
  · exact h.iccid_ne

variable [StringStore σ] (cfg : Config)

theorem Coherent.persistImsi {run : Run σ} (h : run.Coherent) : (run.persistImsi cfg).Coherent := by
  obtain ⟨_, _, _, _, hrun⟩ := Run.persistImsi_touches cfg run
  rw [hrun]
  exact h.congr rfl rfl rfl rfl

theorem Sound.persistName {run : Run σ} (h : run.Sound) : (run.persistName cfg).Sound := by
  obtain ⟨_, _, _, _, hrun⟩ := Run.persistName_touches cfg run
  rw [hrun]
  exact h.congr rfl rfl rfl rfl

theorem Coherent.persistName {run : Run σ} (h : run.Coherent) : (run.persistName cfg).Coherent := by
  obtain ⟨_, _, _, _, hrun⟩ := Run.persistName_touches cfg run
  rw [hrun]
  exact h.congr rfl rfl rfl rfl

theorem Coherent.retryWrites {run : Run σ} (h : run.Coherent) : (run.retryWrites cfg).Coherent := by
  obtain ⟨_, _, _, _, _, hrun⟩ := Run.retryWrites_touches cfg run
  rw [hrun]
  exact h.congr rfl rfl rfl rfl

/-- A name is only taken over for the cache while the card has none of its own. -/
theorem Coherent.adoptName {run : Run σ} (h : run.Coherent) {name : String} (hname : name ≠ "")
    (hcard : run.cardName = none) : (run.adoptName cfg name).Coherent := by
  simp only [Run.adoptName]
  split
  · exact h
  · apply Sound.refreshPublicName
    apply Sound.persistName cfg
    exact { h with
      cachedName_ne := fun h' => hname (Option.some.inj h')
      cachedName_eq := fun h' => absurd hcard h' }

/-- The card's own name becomes the cached one on the way, so the two never part. -/
theorem Coherent.adoptCardName {run : Run σ} (h : run.Coherent) {name : String} (hname : name ≠ "") :
    (run.adoptCardName cfg name).Coherent := by
  simp only [Run.adoptCardName]
  split
  · exact h
  · apply Sound.refreshPublicName
    apply Sound.persistName cfg
    obtain ⟨_, _, _, _, _, _, hadopt⟩ := Run.adoptName_touches cfg name
      ({ run.note (.cardNameAdopted name) with cardName := some name, nameDirty := true } : Run σ)
    rw [hadopt]
    exact { h with
      cardName_ne := fun h' => hname (Option.some.inj h')
      cachedName_ne := fun h' => hname (Option.some.inj h')
      cachedName_eq := fun _ => rfl }

theorem Coherent.adoptHomeOperator {run : Run σ} (h : run.Coherent) (modem : Modem) :
    (run.adoptHomeOperator cfg modem).Coherent := by
  unfold Run.adoptHomeOperator
  split
  · exact h
  case h_2 name hname =>
    have h' : (run.note (.homeNetwork name)).Coherent := h.congr rfl rfl rfl rfl
    dsimp only
    split
    case isTrue hcard =>
      rw [known_eq_self h'.cardName_ne] at hcard
      exact h'.adoptName cfg (Modem.ne_empty_of_homeOperator? hname) hcard
    case isFalse => exact h'

theorem Coherent.recallImsi {run : Run σ} (h : run.Coherent) (modem : Modem) (iccid : String) :
    (run.recallImsi cfg modem iccid).Coherent := by
  obtain ⟨outcome, store, trail, -, hlookup⟩ := Run.lookup_touches cfg (.imsiOf iccid) run
  have hread : ({ run with store, trail } : Run σ).Coherent := h.congr rfl rfl rfl rfl
  simp only [Run.recallImsi]
  rw [hlookup]
  cases outcome with
  | found imsi =>
    dsimp only
    split
    · exact hread
    case isFalse hne =>
      rw [not_or] at hne
      refine Coherent.congr (Coherent.refreshFallback (Coherent.persistImsi cfg ?_) modem) rfl rfl rfl rfl
      split <;> exact { h with imsi_ne := fun h' => hne.1 (Option.some.inj h') }
  | missing => exact hread
  | unreadable => exact hread

theorem Coherent.recallName {run : Run σ} (h : run.Coherent) : (run.recallName cfg).Coherent := by
  simp only [Run.recallName]
  split
  · exact h
  case h_2 imsi _ =>
    obtain ⟨outcome, store, trail, -, hlookup⟩ := Run.lookup_touches cfg (.nameOf imsi) run
    have hread : ({ run with store, trail } : Run σ).Coherent := h.congr rfl rfl rfl rfl
    rw [hlookup]
    cases outcome with
    | found name =>
      dsimp only
      split
      · exact hread
      case isFalse hne =>
        rw [not_or] at hne
        split
        · exact Coherent.persistName cfg (h.congr rfl rfl rfl rfl)
        case isFalse hcard =>
          rw [Decidable.not_not, known_eq_self h.cardName_ne] at hcard
          apply Sound.refreshPublicName
          apply Sound.persistName cfg
          split <;>
            exact { h with
              cachedName_ne := fun h' => hne.1 (Option.some.inj h')
              cachedName_eq := fun h' => absurd hcard h' }
    | missing => exact hread
    | unreadable => exact hread

theorem Coherent.recallCard {run : Run σ} (h : run.Coherent) (modem : Modem) (iccid : String) :
    (run.recallCard cfg modem iccid).Coherent :=
  (h.recallImsi cfg modem iccid).recallName cfg

theorem Coherent.observeIccid {run : Run σ} (h : run.Coherent) (modem : Modem) :
    (run.observeIccid cfg modem).Coherent := by
  have hnew : (({ run with identity.iccid := known modem.iccid } : Run σ).queue .iccid).Coherent :=
    { h with iccid_ne := known_ne_empty _ }
  simp only [Run.observeIccid]
  split
  · exact h
  · split
    case h_1 iccid _ => exact hnew.recallCard cfg modem iccid
    case h_2 => exact hnew.forgetCard

theorem Coherent.adoptImsi {run : Run σ} (h : run.Coherent) {imsi : String} (himsi : imsi ≠ "") :
    (run.adoptImsi cfg imsi).Coherent := by
  simp only [Run.adoptImsi]
  split
  · exact h
  · refine Coherent.congr
      (Coherent.persistName cfg (Coherent.recallName cfg (Coherent.persistImsi cfg ?_))) rfl rfl rfl rfl
    exact { h with imsi_ne := fun h' => himsi (Option.some.inj h') }

theorem Coherent.observeImsi {run : Run σ} (h : run.Coherent) (modem : Modem) :
    (run.observeImsi cfg modem).Coherent := by
  simp only [Run.observeImsi]
  split
  case h_1 imsi himsi =>
    exact (h.adoptImsi cfg (known_eq_some_iff.1 himsi).2).refreshFallback modem
  case h_2 => exact h.refreshFallback modem

theorem Coherent.observeCardName {run : Run σ} (h : run.Coherent) (modem : Modem) :
    (run.observeCardName cfg modem).Coherent := by
  simp only [Run.observeCardName]
  split
  case h_1 name hname => exact h.adoptCardName cfg (known_eq_some_iff.1 hname).2
  case h_2 => exact h

theorem Coherent.observeNetwork {run : Run σ} (h : run.Coherent) (modem : Modem) :
    (run.observeNetwork cfg modem).Coherent := by
  simp only [Run.observeNetwork]
  split
  · apply Coherent.adoptHomeOperator cfg
    split
    · exact h
    · exact h.congr rfl rfl rfl rfl
  · split
    · exact h.congr rfl rfl rfl rfl
    · exact h

theorem Coherent.observeAll {run : Run σ} (h : run.Coherent) (modem : Modem) :
    (run.observeAll cfg modem).Coherent := by
  have h := (h.observeIccid cfg modem).observeNetwork cfg modem
  exact ((h.observeImsi cfg modem).observeCardName cfg modem).adoptHomeOperator cfg modem

theorem Coherent.observe {run : Run σ} (h : run.Coherent) (modem : Modem) (change : Change) :
    (run.observe cfg modem change).Coherent := by
  cases change with
  | iccid =>
    have hnote : (run.note (.iccidReported modem.iccid)).Coherent := h.congr rfl rfl rfl rfl
    exact hnote.observeIccid cfg modem
  | imsi => exact h.observeImsi cfg modem
  | spn => exact h.observeCardName cfg modem
  | network => exact h.observeNetwork cfg modem
  | networkStatus =>
    simp only [Run.observe]
    split
    · exact h.adoptHomeOperator cfg modem
    · exact h

/-! ### Whole runs -/

omit [StringStore σ] in
/-- Who knows nothing knows nothing that does not fit together. -/
theorem coherent_blank (path : String) (store : σ) :
    ({ identity := { path }, store } : Run σ).Coherent := by
  refine ⟨⟨by simp, by simp, by simp, by simp, by simp⟩, ?_⟩
  rfl

/-- A tracker begins coherent: what it knows at first is nothing. -/
theorem coherent_start (modem : Modem) (store : σ) :
    (Run.start cfg modem store).Coherent := by
  have h := (coherent_blank modem.path store).observeAll cfg modem
  simp only [Run.start]
  split
  · exact h.congr rfl rfl rfl rfl
  · exact h.congr rfl rfl rfl rfl

theorem Coherent.perform {run : Run σ} (h : run.Coherent) (modem : Modem) (call : Call) :
    (run.perform cfg modem call).Coherent := by
  have h := h.retryWrites cfg
  cases call with
  | report change => exact (h.observe cfg modem change).congr rfl rfl rfl rfl
  | resync => exact (h.observeAll cfg modem).congr rfl rfl rfl rfl

end Knowledge

variable {σ : Type} [StringStore σ] {cfg : Config} {run : Run σ}

/-- **Every reachable run is coherent.** -/
theorem Reachable.coherent (h : Reachable cfg run) : run.Coherent := by
  induction h with
  | start modem store => exact Knowledge.coherent_start cfg modem store
  | perform modem call _ ih => exact ih.perform cfg modem call

/-- Between two calls no signal is due. -/
theorem Reachable.due_eq_empty (h : Reachable cfg run) : run.due = ∅ := by
  cases h with
  | start modem store =>
    simp only [Run.start]
    split
    · rfl
    · rfl
  | perform modem call _ =>
    cases call with
    | report change => rfl
    | resync => rfl

/-- **What a tracker shows**: the first of the card's name, the cached name and the fallback name
that is there and not empty. Nothing is shown or remembered as an empty text, and no signal waits
to be sent. -/
theorem shown_name_is_first_known (h : Reachable cfg run) :
    run.identity.spn =
        ([run.cardName, run.cachedName, some run.fallback.text].filterMap id).find? (· ≠ "") ∧
      (∀ text ∈ [run.identity.iccid, run.identity.imsi, run.identity.spn, run.cardName,
        run.cachedName], text ≠ some "") ∧
      run.due = ∅ := by
  have hc := h.coherent
  refine ⟨?_, ?_, h.due_eq_empty⟩
  · rw [hc.spn_eq, publicName?, findSome?_known]
  · have hspn : run.identity.spn ≠ some "" := by
      rw [hc.spn_eq]; exact publicName?_ne_empty _ _ _
    simp only [List.mem_cons, List.not_mem_nil, or_false]
    rintro text (rfl | rfl | rfl | rfl | rfl)
    · exact hc.iccid_ne
    · exact hc.imsi_ne
    · exact hspn
    · exact hc.cardName_ne
    · exact hc.cachedName_ne

/-- At home, a card keeps its own name through a call. -/
theorem shown_name_of_card_at_home :
    let run := (Run.start {} Modem.atHome (∅ : VolatileStore)).perform {} Modem.atHome .resync
    Reachable {} run ∧ run.identity.spn = some "Card" ∧ run.due = ∅ := by
  intro run
  have hreachable : Reachable {} run := .perform _ _ (.start _ _)
  obtain ⟨hspn, -, hdue⟩ := shown_name_is_first_known hreachable
  refine ⟨hreachable, hspn.trans ?_, hdue⟩
  decide +kernel

end SimIdentity
