import SimIdentity.Proofs.Authority
import SimIdentity.Proofs.Candor
import SimIdentity.Proofs.HomeNetwork

/-!
# What is kept

A modem that does not show a value has not taken it back. Cards are slow to tell who they are, and
stores may fail, so what was known of a card stays known for as long as the card is there. It may
become another value, but not an unknown one. There is one exception, and one step that makes it: a
card that is gone is forgotten (`forgetCard`), and that is only taken if a serial number was tracked
and none is shown any more.

`Run.Retains` says so of a step. It composes, and each step of a tracker but the forgetting has it,
whatever the stores answer.

## What is proved

`known_until_card_is_lost`: a call in which the card is not lost retains what is known, and each
part of it becomes another one in those calls only that are about it.
-/

namespace SimIdentity

variable {σ : Type}

/-! ### Keeping what is known -/

/-- What was known of the card, by itself or through the cache, is still known. -/
structure Run.Retains (run later : Run σ) : Prop where
  /-- The subscription is. -/
  imsi : run.identity.imsi ≠ none → later.identity.imsi ≠ none
  /-- The name on the card is. -/
  cardName : run.cardName ≠ none → later.cardName ≠ none
  /-- The name for the cache is. -/
  cachedName : run.cachedName ≠ none → later.cachedName ≠ none

namespace Run.Retains

variable {run later last : Run σ}

theorem refl (run : Run σ) : Retains run run := ⟨id, id, id⟩

theorem trans (h : Retains run later) (h' : Retains later last) : Retains run last where
  imsi hknown := h'.imsi (h.imsi hknown)
  cardName hknown := h'.cardName (h.cardName hknown)
  cachedName hknown := h'.cachedName (h.cachedName hknown)

/-- A step that is not about these values keeps them. -/
theorem of_eq (himsi : later.identity.imsi = run.identity.imsi)
    (hcard : later.cardName = run.cardName) (hcached : later.cachedName = run.cachedName) :
    Retains run later where
  imsi hknown := by rwa [himsi]
  cardName hknown := by rwa [hcard]
  cachedName hknown := by rwa [hcached]

end Run.Retains

namespace Run

variable {run : Run σ}

theorem retains_refreshPublicName (run : Run σ) : Retains run run.refreshPublicName := by
  obtain ⟨_, _, hrefresh⟩ := refreshPublicName_touches run
  rw [hrefresh]
  exact .of_eq rfl rfl rfl

theorem retains_refreshFallback (modem : Modem) (run : Run σ) :
    Retains run (run.refreshFallback modem) := by
  obtain ⟨_, _, _, hrefresh⟩ := refreshFallback_touches modem run
  rw [hrefresh]
  exact .of_eq rfl rfl rfl

variable [StringStore σ] (cfg : Config)

theorem retains_persistImsi (run : Run σ) : Retains run (run.persistImsi cfg) := by
  obtain ⟨_, _, _, _, hpersist⟩ := persistImsi_touches cfg run
  rw [hpersist]
  exact .of_eq rfl rfl rfl

theorem retains_persistName (run : Run σ) : Retains run (run.persistName cfg) := by
  obtain ⟨_, _, _, _, hpersist⟩ := persistName_touches cfg run
  rw [hpersist]
  exact .of_eq rfl rfl rfl

theorem retains_retryWrites (run : Run σ) : Retains run (run.retryWrites cfg) := by
  obtain ⟨_, _, _, _, _, hretry⟩ := retryWrites_touches cfg run
  rw [hretry]
  exact .of_eq rfl rfl rfl

/-! ### Names -/

theorem retains_adoptName (name : String) (run : Run σ) :
    Retains run (run.adoptName cfg name) := by
  obtain ⟨_, _, _, _, _, _, hadopt⟩ := adoptName_touches cfg name run
  rw [hadopt]
  exact ⟨id, id, fun _ => Option.some_ne_none name⟩

theorem retains_adoptCardName (name : String) (run : Run σ) :
    Retains run (run.adoptCardName cfg name) := by
  simp only [adoptCardName]
  split
  · exact .refl run
  · have hreported : Retains run
        { run.note (.cardNameAdopted name) with cardName := some name, nameDirty := true } :=
      ⟨id, fun _ => Option.some_ne_none name, id⟩
    have hadopted := hreported.trans (retains_adoptName cfg name _)
    exact (hadopted.trans (retains_persistName cfg _)).trans (retains_refreshPublicName _)

theorem retains_adoptHomeOperator (modem : Modem) (run : Run σ) :
    Retains run (run.adoptHomeOperator cfg modem) := by
  unfold adoptHomeOperator
  split
  · exact .refl run
  case h_2 name _ =>
    have hnote : Retains run (run.note (.homeNetwork name)) := .of_eq rfl rfl rfl
    dsimp only
    split
    · exact hnote.trans (retains_adoptName cfg name _)
    · exact hnote

/-- What the cache tells takes the place of a name, and never leaves it empty. -/
theorem retains_recallName (run : Run σ) : Retains run (run.recallName cfg) where
  imsi hknown := by rwa [(recallName_touches cfg run).imsi_eq]
  cardName hknown := by rwa [(recallName_touches cfg run).cardName_eq]
  cachedName hknown := (cachedName_recallName cfg run).elim (fun hsame => by rwa [hsame]) id

/-! ### The card and its subscription -/

theorem retains_recallImsi (modem : Modem) (iccid : String) (run : Run σ) :
    Retains run (run.recallImsi cfg modem iccid) := by
  obtain ⟨outcome, store, trail, -, hlookup⟩ := lookup_touches cfg (.imsiOf iccid) run
  have hread : Retains run { run with store, trail } := .of_eq rfl rfl rfl
  simp only [recallImsi]
  rw [hlookup]
  cases outcome with
  | found imsi =>
    dsimp only
    split
    · exact hread
    · have hqueue (later : Run σ) : Retains later (later.queue .imsi) := .of_eq rfl rfl rfl
      refine Retains.trans ?_ (hqueue _)
      refine Retains.trans ?_ (retains_refreshFallback modem _)
      refine Retains.trans ?_ (retains_persistImsi cfg _)
      split
      · exact ⟨fun _ => Option.some_ne_none imsi, id, id⟩
      · exact ⟨fun _ => Option.some_ne_none imsi, id, id⟩
  | missing => exact hread
  | unreadable => exact hread

theorem retains_recallCard (modem : Modem) (iccid : String) (run : Run σ) :
    Retains run (run.recallCard cfg modem iccid) :=
  (retains_recallImsi cfg modem iccid run).trans (retains_recallName cfg _)

theorem retains_adoptImsi (imsi : String) (run : Run σ) :
    Retains run (run.adoptImsi cfg imsi) := by
  obtain ⟨_, hadopt⟩ := adoptImsi_touches cfg imsi run
  refine ⟨fun _ => ?_, fun hknown => ?_, fun hknown => ?_⟩
  · rw [hadopt.imsi_eq]
    exact Option.some_ne_none imsi
  · rwa [hadopt.cardName_eq]
  · exact (cachedName_adoptImsi cfg imsi run).elim (fun hsame => by rwa [hsame]) id

/-! ### Observing the modem -/

/-- Another serial number does not make the tracker forget, but none at all does. -/
theorem retains_observeIccid {modem : Modem}
    (hkept : ¬ (run.identity.iccid ≠ none ∧ known modem.iccid = none)) :
    Retains run (run.observeIccid cfg modem) := by
  simp only [observeIccid]
  split
  case isTrue => exact .refl run
  case isFalse hnew =>
    have hbegun (iccid : Option String) : Retains run
        ({ run with identity.iccid := iccid }.queue .iccid) := .of_eq rfl rfl rfl
    split
    case h_1 iccid _ => exact (hbegun _).trans (retains_recallCard cfg modem iccid _)
    case h_2 hnone =>
      refine absurd ⟨fun hold => hnew ?_, hnone⟩ hkept
      rw [hold, hnone]

theorem retains_observeImsi (modem : Modem) (run : Run σ) :
    Retains run (run.observeImsi cfg modem) := by
  simp only [observeImsi]
  split
  case h_1 imsi _ =>
    exact (retains_adoptImsi cfg imsi run).trans (retains_refreshFallback modem _)
  case h_2 => exact retains_refreshFallback modem run

theorem retains_observeCardName (modem : Modem) (run : Run σ) :
    Retains run (run.observeCardName cfg modem) := by
  simp only [observeCardName]
  split
  case h_1 name _ => exact retains_adoptCardName cfg name run
  case h_2 => exact .refl run

theorem retains_observeNetwork (modem : Modem) (run : Run σ) :
    Retains run (run.observeNetwork cfg modem) := by
  obtain ⟨trail, hobserve⟩ := observeNetwork_eq_adoptHomeOperator cfg modem run
  have hread : Retains run { run with trail, attached := modem.network.isSome } :=
    .of_eq rfl rfl rfl
  rw [hobserve]
  exact hread.trans (retains_adoptHomeOperator cfg modem _)

theorem retains_observeAll {modem : Modem}
    (hkept : ¬ (run.identity.iccid ≠ none ∧ known modem.iccid = none)) :
    Retains run (run.observeAll cfg modem) := by
  have hiccid := retains_observeIccid cfg hkept
  have hnetwork := hiccid.trans (retains_observeNetwork cfg modem _)
  have himsi := hnetwork.trans (retains_observeImsi cfg modem _)
  have hname := himsi.trans (retains_observeCardName cfg modem _)
  exact hname.trans (retains_adoptHomeOperator cfg modem _)

/-- Of all reports, only the one of the serial number can be about a card that is lost. -/
theorem retains_observe {modem : Modem} {change : Change}
    (hkept : change = .iccid → ¬ (run.identity.iccid ≠ none ∧ known modem.iccid = none)) :
    Retains run (run.observe cfg modem change) := by
  cases change with
  | iccid =>
    have hnote : Retains run (run.note (.iccidReported modem.iccid)) := .of_eq rfl rfl rfl
    exact hnote.trans (retains_observeIccid cfg (hkept rfl))
  | imsi => exact retains_observeImsi cfg modem run
  | spn => exact retains_observeCardName cfg modem run
  | network => exact retains_observeNetwork cfg modem run
  | networkStatus =>
    simp only [observe]
    split
    · exact retains_adoptHomeOperator cfg modem run
    · exact .refl run

end Run

/-! ### Calls, and what they are about -/

namespace Call

/-- Whether the serial number is read in the call. -/
def readsIccid : Call → Bool
  | .report .iccid => true
  | .report _ => false
  | .resync => true

/-- Whether the call is about the subscription: it is read, or it may be told by the cache for the
serial number that is read. The codes of the home network are read along with it. -/
def concernsImsi : Call → Bool
  | .report .imsi => true
  | call => call.readsIccid

variable {call : Call}

theorem readsIccid_iff : call.readsIccid = true ↔ call = .report .iccid ∨ call = .resync := by
  rcases call with (_ | _ | _ | _ | _) | _ <;> simp [readsIccid]

theorem concernsImsi_iff :
    call.concernsImsi = true ↔ call = .report .iccid ∨ call = .report .imsi ∨ call = .resync := by
  rcases call with (_ | _ | _ | _ | _) | _ <;> simp [concernsImsi, readsIccid]

theorem readsName_iff : call.readsName = true ↔ call = .report .spn ∨ call = .resync := by
  rcases call with (_ | _ | _ | _ | _) | _ <;> simp [readsName]

theorem readsNetwork_iff :
    call.readsNetwork = true ↔ call = .report .network ∨ call = .resync := by
  rcases call with (_ | _ | _ | _ | _) | _ <;> simp [readsNetwork]

end Call

namespace Run

variable [StringStore σ] (cfg : Config)

/-- The serial number after a call is the one that was read, or the one that was known. -/
theorem iccid_perform (modem : Modem) (call : Call) (run : Run σ) :
    (run.perform cfg modem call).identity.iccid =
      if call.readsIccid then known modem.iccid else run.identity.iccid := by
  have hretried := iccid_retryWrites cfg run
  cases call with
  | resync => exact iccid_observeAll cfg modem _
  | report change =>
    cases change with
    | iccid => exact iccid_observeIccid cfg modem _
    | imsi =>
      obtain ⟨_, himsi⟩ := observeImsi_touches cfg modem (run.retryWrites cfg)
      exact himsi.iccid_eq.trans hretried
    | spn => exact (observeCardName_touches cfg modem _).iccid_eq.trans hretried
    | network => exact (observeNetwork_touches cfg modem _).iccid_eq.trans hretried
    | networkStatus => exact (observe_networkStatus_touches cfg modem _).iccid_eq.trans hretried

/-- A call that is not about the subscription leaves it alone, and the fallback name with it. -/
theorem subscription_perform (modem : Modem) {call : Call} (hcall : call.concernsImsi = false)
    (run : Run σ) :
    (run.perform cfg modem call).identity.imsi = run.identity.imsi ∧
      (run.perform cfg modem call).fallback = run.fallback := by
  have hretried : (run.retryWrites cfg).identity.imsi = run.identity.imsi ∧
      (run.retryWrites cfg).fallback = run.fallback := by
    obtain ⟨_, _, _, _, _, hretry⟩ := retryWrites_touches cfg run
    rw [hretry]
    exact ⟨rfl, rfl⟩
  rw [← hretried.1, ← hretried.2]
  cases call with
  | resync => cases hcall
  | report change =>
    cases change with
    | iccid => cases hcall
    | imsi => cases hcall
    | spn =>
      have h := observeCardName_touches cfg modem (run.retryWrites cfg)
      exact ⟨h.imsi_eq, h.fallback_eq⟩
    | network =>
      have h := observeNetwork_touches cfg modem (run.retryWrites cfg)
      exact ⟨h.imsi_eq, h.fallback_eq⟩
    | networkStatus =>
      have h := observe_networkStatus_touches cfg modem (run.retryWrites cfg)
      exact ⟨h.imsi_eq, h.fallback_eq⟩

/-- A call in which the card is not lost retains what is known of it. -/
theorem retains_perform {modem : Modem} {call : Call} {run : Run σ}
    (hkept : ¬ run.LosesCard cfg modem call) : Retains run (run.perform cfg modem call) := by
  have hretried := retains_retryWrites cfg run
  -- the serial number is lost in the call if it is lost after failed writes were tried again
  have hlost (hreads : call.readsIccid = true) :
      ¬ ((run.retryWrites cfg).identity.iccid ≠ none ∧ known modem.iccid = none) := by
    rintro ⟨htracked, hnone⟩
    refine hkept ⟨fun hold => htracked ((iccid_retryWrites cfg run).trans hold), ?_⟩
    rw [iccid_perform, if_pos hreads, hnone]
  have hannounce (later : Run σ) : Retains later later.announce := .of_eq rfl rfl rfl
  cases call with
  | resync => exact (hretried.trans (retains_observeAll cfg (hlost rfl))).trans (hannounce _)
  | report change =>
    refine (hretried.trans (retains_observe cfg ?_)).trans (hannounce _)
    rintro rfl
    exact hlost rfl

end Run

variable [StringStore σ]

/-- **What is known stays known until the card is lost.** Whatever the modem shows and the stores
answer, a subscription, a name on the card or a name for the cache that was known before a call is
known after it, unless the call lost the card. The serial number becomes another one only when it is
reported or everything is read, and so do the subscription and the fallback name, or when the
subscription is reported. The card gets a name only when the name is reported or everything is read.
Whether a network is attached changes only when that is reported or everything is read. -/
theorem known_until_card_is_lost (cfg : Config) (modem : Modem) (call : Call) (run : Run σ) :
    let after := run.perform cfg modem call
    (run.identity.imsi ≠ none ∧ after.identity.imsi = none ∨
        run.cardName ≠ none ∧ after.cardName = none ∨
        run.cachedName ≠ none ∧ after.cachedName = none →
      run.identity.iccid ≠ none ∧ after.identity.iccid = none) ∧
    (after.identity.iccid ≠ run.identity.iccid → call = .report .iccid ∨ call = .resync) ∧
    (after.identity.imsi ≠ run.identity.imsi ∨ after.fallback ≠ run.fallback →
      call = .report .iccid ∨ call = .report .imsi ∨ call = .resync) ∧
    (after.cardName ≠ none ∧ after.cardName ≠ run.cardName →
      call = .report .spn ∨ call = .resync) ∧
    (after.attached ≠ run.attached → call = .report .network ∨ call = .resync) := by
  intro after
  refine ⟨fun hgone => ?_, fun hnew => ?_, fun hnew => ?_, fun ⟨hnamed, hnew⟩ => ?_, fun hnew => ?_⟩
  · by_contra hkept
    have hretains : Run.Retains run after := Run.retains_perform cfg hkept
    rcases hgone with ⟨hknown, hnone⟩ | ⟨hknown, hnone⟩ | ⟨hknown, hnone⟩
    · exact hretains.imsi hknown hnone
    · exact hretains.cardName hknown hnone
    · exact hretains.cachedName hknown hnone
  · rw [← Call.readsIccid_iff]
    by_contra hreads
    exact hnew ((Run.iccid_perform cfg modem call run).trans (if_neg hreads))
  · rw [← Call.concernsImsi_iff]
    by_contra hconcerns
    obtain ⟨himsi, hfallback⟩ :=
      Run.subscription_perform cfg modem (Bool.eq_false_iff.2 hconcerns) run
    exact hnew.elim (absurd himsi) (absurd hfallback)
  · rw [← Call.readsName_iff]
    by_contra hreads
    -- the name on the card is the one that was known, or forgotten with the card
    have hcard : after.cardName =
        if run.LosesCard cfg modem call then none else run.cardName := by
      refine (Run.cardName_perform cfg modem call run).trans ?_
      rw [if_neg hreads]
      rfl
    split at hcard
    · exact hnamed hcard
    · exact hnew hcard
  · rw [← Call.readsNetwork_iff]
    by_contra hreads
    exact hnew ((Run.attached_perform cfg modem call run).trans (if_neg hreads))

end SimIdentity
