import SimIdentity.Proofs.Coherence
import SimIdentity.Proofs.Delivery
import SimIdentity.Store.Recorded
import SimIdentity.Store.Unreliable

/-!
# No signal without a change

That every change is told is half of what subscribers want. The other half is that nothing else is.
A signal that has become due is never withdrawn, so a part of the identity that changes and changes
back within one call is announced as if it were another one.

`Run.Candid` says of a signal that it did not become due without a reason that is still there at the
end. Each step of a tracker is candid, since it makes a signal due where it changes its part. Two of
them together are, unless the second one changes back what the first one changed (`Candid.trans`).
The only part that two steps of a call may change is the name to show.

## What is proved

`reports_announce_changes`: a report is followed by exactly the signals of the parts that it has
changed. It is not so for the name after another card was put in: the fallback name of the new card
may be shown for a moment, before the cache tells the name that was shown for the old one.
-/

namespace SimIdentity

variable {σ : Type} {signal : Signal} {run later last : Run σ}

/-! ### What becomes due for a reason -/

/-- The signal is due for a reason: it was due before, or its part of the identity is not what it
was. -/
def Run.Candid (signal : Signal) (run later : Run σ) : Prop :=
  signal ∈ later.due → signal ∈ run.due ∨ later.identity.part signal ≠ run.identity.part signal

namespace Run.Candid

theorem refl (run : Run σ) : Candid signal run run := .inl

/-- Where the part is not what it was, there is a reason. -/
theorem of_part (h : later.identity.part signal ≠ run.identity.part signal) :
    Candid signal run later := fun _ => .inr h

/-- Two steps are candid together if what the first one has changed is not changed back. -/
theorem trans (h : Candid signal run later) (h' : Candid signal later last)
    (hstays : later.identity.part signal ≠ run.identity.part signal →
      last.identity.part signal ≠ run.identity.part signal) : Candid signal run last := by
  intro hdue
  by_cases hpart : later.identity.part signal = run.identity.part signal
  · rcases h' hdue with hdue | hchange
    · exact (h hdue).imp_right fun hchange => absurd hpart hchange
    · exact .inr (hpart ▸ hchange)
  · exact .inr (hstays hpart)

/-- One of two steps may be about something else. -/
theorem trans_of_part_eq (h : Candid signal run later) (h' : Candid signal later last)
    (hpart : last.identity.part signal = later.identity.part signal) : Candid signal run last :=
  h.trans h' fun hchange => hpart ▸ hchange

/-- A step that neither changes the part nor makes anything due may come before. -/
theorem of_quiet (hpart : later.identity.part signal = run.identity.part signal)
    (hdue : later.due = run.due) (h : Candid signal later last) : Candid signal run last := by
  unfold Candid at h
  rwa [hpart, hdue] at h

/-- Another signal may become due. -/
theorem queue_of_ne {other : Signal} (h : Candid signal run later) (hother : signal ≠ other) :
    Candid signal run (later.queue other) := fun hdue =>
  h ((SignalSet.mem_insert.1 hdue).resolve_left hother)

end Run.Candid

namespace Run

/-! ### Choosing the name -/

theorem candid_refreshPublicName (run : Run σ) : Candid signal run run.refreshPublicName := by
  obtain ⟨trail, hrefresh⟩ := refreshPublicName_eq run rfl
  rw [hrefresh]
  intro hdue
  dsimp only at hdue
  split at hdue
  case isTrue => exact .inl hdue
  case isFalse hnew =>
    rcases SignalSet.mem_insert.1 hdue with rfl | hdue
    · exact .inr (Ne.symm hnew)
    · exact .inl hdue

/-- A name that is right already is not chosen anew. -/
theorem refreshPublicName_of_shown
    (h : run.identity.spn = publicName? run.cardName run.cachedName run.fallback) :
    run.refreshPublicName = run := by
  simp only [refreshPublicName]
  exact if_pos h

theorem candid_refreshFallback (modem : Modem) (run : Run σ) :
    Candid signal run (run.refreshFallback modem) := by
  simp only [refreshFallback]
  split
  · exact .refl run
  · exact .of_quiet rfl rfl (candid_refreshPublicName _)

/-- When a card is forgotten, the signals become due of what there was to forget. -/
theorem mem_dueOnLoss {identity : Identity} {due : SignalSet} :
    signal ∈ dueOnLoss identity due ↔
      signal ∈ due ∨ signal ≠ .iccid ∧ identity.part signal ≠ none := by
  by_cases himsi : identity.imsi = none <;> by_cases hspn : identity.spn = none <;>
    cases signal <;> simp [dueOnLoss, Identity.part, himsi, hspn]

theorem candid_forgetCard (run : Run σ) : Candid signal run run.forgetCard := by
  obtain ⟨trail, hforget⟩ := forgetCard_eq run
  rw [hforget]
  intro hdue
  refine (mem_dueOnLoss.1 hdue).imp_right fun ⟨hother, hknown⟩ => ?_
  cases signal with
  | iccid => exact absurd rfl hother
  | imsi => exact hknown.symm
  | spn => exact hknown.symm

/-- Only the name to show is affected when names are learned. -/
theorem Renamed.part_eq (h : Renamed run later) (hsignal : signal ≠ .spn) :
    later.identity.part signal = run.identity.part signal := by
  cases signal with
  | iccid => exact h.iccid_eq
  | imsi => exact h.imsi_eq
  | spn => exact absurd rfl hsignal

theorem part_refreshFallback (modem : Modem) (hsignal : signal ≠ .spn) (run : Run σ) :
    (run.refreshFallback modem).identity.part signal = run.identity.part signal := by
  obtain ⟨_, _, _, hrefresh⟩ := refreshFallback_touches modem run
  rw [hrefresh]
  cases signal with
  | iccid => rfl
  | imsi => rfl
  | spn => exact absurd rfl hsignal

variable [StringStore σ] {cfg : Config}

/-! ### Taking over names -/

theorem quiet_persistImsi (cfg : Config) (run : Run σ) :
    (run.persistImsi cfg).identity = run.identity ∧ (run.persistImsi cfg).due = run.due := by
  obtain ⟨_, _, _, _, hpersist⟩ := persistImsi_touches cfg run
  rw [hpersist]
  exact ⟨rfl, rfl⟩

theorem quiet_persistName (cfg : Config) (run : Run σ) :
    (run.persistName cfg).identity = run.identity ∧ (run.persistName cfg).due = run.due := by
  obtain ⟨_, _, _, _, hpersist⟩ := persistName_touches cfg run
  rw [hpersist]
  exact ⟨rfl, rfl⟩

/-- After the name was chosen anew, it is right also when something was saved. -/
theorem shown_persistName_refreshPublicName (cfg : Config) (run : Run σ) :
    let later := run.refreshPublicName.persistName cfg
    later.identity.spn = publicName? later.cardName later.cachedName later.fallback := by
  obtain ⟨_, _, hrefresh⟩ := refreshPublicName_touches run
  obtain ⟨_, _, _, _, hpersist⟩ := persistName_touches cfg run.refreshPublicName
  dsimp only
  rw [hpersist, hrefresh]

/-- A name is saved first, and then it is chosen anew which one is shown. -/
theorem candid_refreshPublicName_persistName (cfg : Config) (run : Run σ) :
    Candid signal run (run.persistName cfg).refreshPublicName := by
  obtain ⟨hidentity, hdue⟩ := quiet_persistName cfg run
  exact .of_quiet (by rw [hidentity]) hdue (candid_refreshPublicName _)

theorem candid_adoptName (name : String) (run : Run σ) :
    Candid signal run (run.adoptName cfg name) := by
  simp only [adoptName]
  split
  · exact .refl run
  · exact candid_refreshPublicName_persistName cfg
      ({ run.note (.nameAdopted name) with cachedName := some name, nameDirty := true } : Run σ)

/-- Saving the name makes nothing due. -/
theorem Candid.persistName (h : Candid signal run later) (cfg : Config) :
    Candid signal run (later.persistName cfg) := by
  obtain ⟨hidentity, hdue⟩ := quiet_persistName cfg later
  unfold Candid
  rwa [hidentity, hdue]

/-- The name to show is chosen twice, the second time from the same sources. -/
theorem candid_adoptCardName (name : String) (run : Run σ) :
    Candid signal run (run.adoptCardName cfg name) := by
  simp only [adoptCardName]
  split
  · exact .refl run
  · generalize hbegun : ({ run.note (.cardNameAdopted name) with
      cardName := some name, nameDirty := true } : Run σ) = begun
    have hadopt : Candid signal begun
        ((begun.adoptName cfg name).persistName cfg).refreshPublicName := by
      simp only [adoptName]
      split
      · exact candid_refreshPublicName_persistName cfg begun
      · generalize hfirst : ({ begun.note (.nameAdopted name) with
          cachedName := some name, nameDirty := true } : Run σ) = first
        have hcandid : Candid signal first (first.persistName cfg).refreshPublicName :=
          candid_refreshPublicName_persistName cfg first
        rw [refreshPublicName_of_shown (shown_persistName_refreshPublicName cfg _)]
        subst hfirst
        exact hcandid.persistName cfg
    subst hbegun
    exact hadopt

theorem candid_adoptHomeOperator (modem : Modem) (run : Run σ) :
    Candid signal run (run.adoptHomeOperator cfg modem) := by
  unfold adoptHomeOperator
  split
  · exact .refl run
  case h_2 name _ =>
    have hnote : Candid signal run ((run.note (.homeNetwork name)).adoptName cfg name) :=
      candid_adoptName name (run.note (.homeNetwork name))
    dsimp only
    split
    · exact hnote
    · exact .refl run

theorem candid_recallName (run : Run σ) : Candid signal run (run.recallName cfg) := by
  simp only [recallName]
  split
  · exact .refl run
  case h_2 imsi _ =>
    obtain ⟨outcome, store, trail, -, hlookup⟩ := lookup_touches cfg (.nameOf imsi) run
    rw [hlookup]
    cases outcome with
    | found name =>
      dsimp only
      split
      · exact .refl run
      · split
        · obtain ⟨hidentity, hdue⟩ := quiet_persistName cfg
            ({ { run with store, trail }.note (.nameOverruled name imsi) with nameDirty := true } :
              Run σ)
          exact fun h => .inl (hdue ▸ h)
        · split
          · exact candid_refreshPublicName_persistName cfg _
          · exact candid_refreshPublicName_persistName cfg _
    | missing => exact .refl run
    | unreadable => exact .refl run

/-! ### Observing the modem -/

/-- Another subscription is a reason for its signal, and no hindrance to the others. -/
theorem candid_imsi {seen : Run σ} {imsi : String} (h : Candid signal (seen.persistImsi cfg) later)
    (hkept : later.identity.imsi = (seen.persistImsi cfg).identity.imsi)
    (hnew : run.identity.imsi ≠ some imsi)
    (hidentity : seen.identity = { run.identity with imsi := some imsi })
    (hdue : seen.due = run.due) : Candid signal run (later.queue .imsi) := by
  obtain ⟨hidentity', hdue'⟩ := quiet_persistImsi cfg seen
  rw [hidentity] at hidentity'
  by_cases hsignal : signal = .imsi
  · subst hsignal
    refine .of_part ?_
    show later.identity.imsi ≠ run.identity.imsi
    rw [hkept, hidentity']
    exact Ne.symm hnew
  · refine .queue_of_ne (.of_quiet ?_ (hdue'.trans hdue) h) hsignal
    rw [hidentity']
    cases signal with
    | iccid => rfl
    | imsi => exact absurd rfl hsignal
    | spn => rfl

theorem candid_recallImsi (modem : Modem) (iccid : String) (run : Run σ) :
    Candid signal run (run.recallImsi cfg modem iccid) := by
  have hother : Signal.imsi ≠ .spn := Signal.noConfusion
  obtain ⟨outcome, store, trail, -, hlookup⟩ := lookup_touches cfg (.imsiOf iccid) run
  simp only [recallImsi]
  rw [hlookup]
  cases outcome with
  | found imsi =>
    dsimp only
    split
    · exact .refl run
    case isFalse hnew =>
      rw [not_or] at hnew
      split
      · exact candid_imsi (candid_refreshFallback modem _) (part_refreshFallback modem hother _)
          hnew.2 rfl rfl
      · exact candid_imsi (candid_refreshFallback modem _) (part_refreshFallback modem hother _)
          hnew.2 rfl rfl
  | missing => exact .refl run
  | unreadable => exact .refl run

theorem candid_adoptImsi (imsi : String) (run : Run σ) :
    Candid signal run (run.adoptImsi cfg imsi) := by
  simp only [adoptImsi]
  split
  · exact .refl run
  case isFalse hnew =>
    exact candid_imsi ((candid_recallName _).persistName cfg)
      ((recallName_touches cfg _).persistName cfg).imsi_eq hnew rfl rfl

theorem candid_recallCard (hsignal : signal ≠ .spn) (modem : Modem) (iccid : String)
    (run : Run σ) : Candid signal run (run.recallCard cfg modem iccid) :=
  (candid_recallImsi modem iccid run).trans_of_part_eq (candid_recallName _)
    ((recallName_touches cfg _).part_eq hsignal)

omit [StringStore σ] in
/-- Another serial number is a reason for its signal too, and no hindrance to the others. -/
theorem candid_iccid {iccid : Option String}
    (h : Candid signal (({ run with identity.iccid := iccid } : Run σ).queue .iccid) later)
    (hkept : later.identity.iccid = iccid) (hnew : run.identity.iccid ≠ iccid) :
    Candid signal run later := by
  by_cases hsignal : signal = .iccid
  · subst hsignal
    refine .of_part ?_
    show later.identity.iccid ≠ run.identity.iccid
    rw [hkept]
    exact Ne.symm hnew
  · have hpart : { run.identity with iccid := iccid }.part signal = run.identity.part signal := by
      cases signal with
      | iccid => exact absurd rfl hsignal
      | imsi => rfl
      | spn => rfl
    have hbegun : Candid signal run (({ run with identity.iccid := iccid } : Run σ).queue .iccid) :=
      .queue_of_ne .inl hsignal
    exact hbegun.trans h fun h => absurd hpart h

/-- Which name is shown in between is only known where the card is gone. -/
theorem candid_observeIccid (modem : Modem) (hlost : signal = .spn → known modem.iccid = none)
    (run : Run σ) : Candid signal run (run.observeIccid cfg modem) := by
  have hkept := iccid_observeIccid cfg modem run
  by_cases hsame : run.identity.iccid = known modem.iccid
  · simp only [observeIccid]
    rw [if_pos hsame]
    exact .refl run
  · simp only [observeIccid] at hkept ⊢
    rw [if_neg hsame] at hkept ⊢
    refine candid_iccid ?_ hkept hsame
    split
    case h_1 iccid hiccid =>
      have hname : signal ≠ .spn := fun h => by
        rw [hlost h] at hiccid
        exact Option.some_ne_none _ hiccid.symm
      exact candid_recallCard hname modem iccid _
    case h_2 => exact candid_forgetCard _

omit [StringStore σ] in
theorem cachedName_refreshPublicName (run : Run σ) :
    run.refreshPublicName.cachedName = run.cachedName := by
  obtain ⟨_, _, hrefresh⟩ := refreshPublicName_touches run
  rw [hrefresh]

theorem cachedName_persistImsi (cfg : Config) (run : Run σ) :
    (run.persistImsi cfg).cachedName = run.cachedName := by
  obtain ⟨_, _, _, _, hpersist⟩ := persistImsi_touches cfg run
  rw [hpersist]

theorem cachedName_persistName (cfg : Config) (run : Run σ) :
    (run.persistName cfg).cachedName = run.cachedName := by
  obtain ⟨_, _, _, _, hpersist⟩ := persistName_touches cfg run
  rw [hpersist]

/-- A cached name gives way to another one only. -/
theorem cachedName_recallName (cfg : Config) (run : Run σ) :
    (run.recallName cfg).cachedName = run.cachedName ∨ (run.recallName cfg).cachedName ≠ none := by
  simp only [recallName]
  split
  · exact .inl rfl
  case h_2 imsi _ =>
    obtain ⟨outcome, store, trail, -, hlookup⟩ := lookup_touches cfg (.nameOf imsi) run
    rw [hlookup]
    cases outcome with
    | found name =>
      dsimp only
      split
      · exact .inl rfl
      · split
        · exact .inl (cachedName_persistName cfg _)
        · rw [cachedName_refreshPublicName, cachedName_persistName]
          exact .inr (Option.some_ne_none name)
    | missing => exact .inl rfl
    | unreadable => exact .inl rfl

theorem cachedName_adoptImsi (cfg : Config) (imsi : String) (run : Run σ) :
    (run.adoptImsi cfg imsi).cachedName = run.cachedName ∨
      (run.adoptImsi cfg imsi).cachedName ≠ none := by
  simp only [adoptImsi]
  split
  · exact .inl rfl
  · generalize hseen : ({ run.note (.imsiAdopted imsi) with
      identity.imsi := some imsi, imsiDirty := true } : Run σ) = seen
    have hkept : (seen.persistImsi cfg).cachedName = run.cachedName := by
      rw [cachedName_persistImsi, ← hseen]
      rfl
    have hrecall := cachedName_recallName cfg (seen.persistImsi cfg)
    rw [hkept] at hrecall
    show (persistName cfg _).cachedName = _ ∨ (persistName cfg _).cachedName ≠ none
    rw [cachedName_persistName]
    exact hrecall

omit [StringStore σ] in
/-- While there is a name from the card or the cache, the fallback makes no difference. -/
theorem spn_refreshFallback {run : Run σ} (h : run.Coherent) (hname : run.cachedName ≠ none)
    (modem : Modem) : (run.refreshFallback modem).identity.spn = run.identity.spn := by
  obtain ⟨name, hname⟩ := Option.ne_none_iff_exists'.1 hname
  have hkept : (run.refreshFallback modem).cachedName = run.cachedName := by
    obtain ⟨_, _, _, hrefresh⟩ := refreshFallback_touches modem run
    rw [hrefresh]
  rw [(h.refreshFallback modem).spn_of_cachedName (hkept.trans hname), h.spn_of_cachedName hname]

/-- The fallback follows when the subscription was taken over. It may only change back what is shown
where no name was found with the subscription, and then nothing has changed yet. -/
theorem candid_observeImsi (modem : Modem) {run : Run σ} (h : run.Coherent) :
    Candid signal run (run.observeImsi cfg modem) := by
  simp only [observeImsi]
  split
  case h_1 imsi himsi =>
    have hcoherent := h.adoptImsi cfg (known_eq_some_iff.1 himsi).2
    obtain ⟨_, hadopt⟩ := adoptImsi_touches cfg imsi run
    refine (candid_adoptImsi imsi run).trans (candid_refreshFallback modem _) fun hchange => ?_
    by_cases hsignal : signal = .spn
    · subst hsignal
      rcases cachedName_adoptImsi cfg imsi run with hsame | hnamed
      · refine absurd ?_ hchange
        show (run.adoptImsi cfg imsi).identity.spn = run.identity.spn
        rw [hcoherent.spn_eq, h.spn_eq, hsame, hadopt.cardName_eq, hadopt.fallback_eq]
      · exact fun hback => hchange ((spn_refreshFallback hcoherent hnamed modem).symm.trans hback)
    · rwa [part_refreshFallback modem hsignal]
  case h_2 => exact candid_refreshFallback modem run

theorem candid_observeCardName (modem : Modem) (run : Run σ) :
    Candid signal run (run.observeCardName cfg modem) := by
  simp only [observeCardName]
  split
  · exact candid_adoptCardName _ run
  · exact .refl run

theorem candid_observeNetwork (modem : Modem) (run : Run σ) :
    Candid signal run (run.observeNetwork cfg modem) := by
  obtain ⟨trail, hobserve⟩ := observeNetwork_eq_adoptHomeOperator cfg modem run
  rw [hobserve]
  exact candid_adoptHomeOperator modem ({ run with trail, attached := modem.network.isSome } : Run σ)

/-- Observing what a report is about is candid, except for the name of another card. -/
theorem candid_observe (modem : Modem) {change : Change} {run : Run σ} (h : run.Coherent)
    (hlost : change = .iccid → signal = .spn → known modem.iccid = none) :
    Candid signal run (run.observe cfg modem change) := by
  cases change with
  | iccid => exact candid_observeIccid modem (hlost rfl) (run.note (.iccidReported modem.iccid))
  | imsi => exact candid_observeImsi modem h
  | spn => exact candid_observeCardName modem run
  | network => exact candid_observeNetwork modem run
  | networkStatus =>
    simp only [observe]
    split
    · exact candid_adoptHomeOperator modem run
    · exact .refl run

theorem quiet_retryWrites (cfg : Config) (run : Run σ) :
    (run.retryWrites cfg).identity = run.identity ∧ (run.retryWrites cfg).due = run.due := by
  obtain ⟨_, _, _, _, _, hretry⟩ := retryWrites_touches cfg run
  rw [hretry]
  exact ⟨rfl, rfl⟩

/-- What is announced is what was due. -/
theorem mem_news {signal : Signal} (due : SignalSet) (identity : Identity) :
    (∃ notification ∈ due.toList.map fun signal => (⟨signal, identity⟩ : Notification),
      notification.signal = signal) ↔ signal ∈ due := by
  simp only [List.mem_map, SignalSet.mem_toList]
  constructor
  · rintro ⟨_, ⟨other, hother, rfl⟩, rfl⟩
    exact hother
  · exact fun hdue => ⟨_, ⟨signal, hdue, rfl⟩, rfl⟩

end Run

variable [StringStore σ] {cfg : Config}

/-- **A report announces exactly what it changes.** Whatever the modem shows and the stores answer,
a signal is sent for a part of the identity if and only if that part is not what it was before the
report. Of the name this is not said where a card was put in. -/
theorem reports_announce_changes (h : Reachable cfg run) (modem : Modem) (change : Change) :
    let after := run.perform cfg modem (.report change)
    ∃ news, after.sent = run.sent ++ news ∧
      ∀ signal, (change = .iccid → signal = .spn → after.identity.iccid = none) →
        ((∃ notification ∈ news, notification.signal = signal) ↔
          after.identity.part signal ≠ run.identity.part signal) := by
  intro after
  obtain ⟨hidentity, hdue⟩ := Run.quiet_retryWrites cfg run
  have hretried : (run.retryWrites cfg).Coherent := h.coherent.retryWrites cfg
  generalize hlater : (run.retryWrites cfg).observe cfg modem change = later
  have hafter : after = later.announce := congrArg Run.announce hlater
  have hprogress : Progress cfg none run later := by
    rw [← hlater]
    exact (Run.progress_retryWrites run).trans (Run.progress_observe modem change _)
  rw [hafter]
  refine ⟨later.due.toList.map fun signal => ⟨signal, later.identity⟩, ?_, fun signal hlost => ?_⟩
  · rw [← hprogress.sent_eq]
    rfl
  · have hgone : change = .iccid → signal = .spn → known modem.iccid = none := by
      rintro rfl hsignal
      have hshown : later.identity.iccid = known modem.iccid := by
        rw [← hlater]
        exact Run.iccid_observeIccid cfg modem _
      exact hshown.symm.trans (hlost rfl hsignal)
    have hcandid : Run.Candid signal run later := by
      rw [← hlater]
      exact .of_quiet (by rw [hidentity]) hdue (Run.candid_observe modem hretried hgone)
    rw [Run.mem_news]
    constructor
    · intro hmem
      refine (hcandid hmem).resolve_left ?_
      rw [h.due_eq_empty]
      exact SignalSet.not_mem_empty signal
    · exact fun hchange => hprogress.mem_due (Option.some_ne_none _) (.inr hchange)

/-- A card gives way to one whose cached name is that of the old one's home network. The codes of
the new one are shown for a moment, so the name is announced although it is the same. -/
example :
    let store : VolatileStore :=
      (∅ : VolatileStore).insert (Cache.Entry.address {} (.imsiOf "8902")) "00299"
        |>.insert (Cache.Entry.address {} (.nameOf "00299")) "00101"
    let modem : Modem :=
      { path := "/ril_0", iccid := some "8901"
        card := some { state := .ready, mcc := some "001", mnc := some "01" } }
    let next : Modem :=
      { path := "/ril_0", iccid := some "8902"
        card := some { state := .ready, mcc := some "002", mnc := some "99" } }
    let run := Run.start {} modem store
    let after := run.perform {} next (.report .iccid)
    after.identity.spn = run.identity.spn ∧
      (after.sent.drop run.sent.length).map (·.signal) = [.iccid, .imsi, .spn] := by
  decide +kernel

/-- A card without a name of its own tells another subscription, and the codes of its home network
with it. Both are announced, and the serial number is not. -/
theorem new_subscription_announced :
    let modem : Modem :=
      { path := "/ril_0", iccid := some "8901", imsi := some "00101"
        card := some { state := .ready, mcc := some "001", mnc := some "01" } }
    let next : Modem :=
      { modem with
        imsi := some "00201", card := some { state := .ready, mcc := some "002", mnc := some "01" } }
    let run := Run.start {} modem (Recorded.ofStore ({ commitPlan := [false] } : UnreliableStore))
    let after := run.perform {} next (.report .imsi)
    ∃ news, after.sent = run.sent ++ news ∧
      ∀ signal, (∃ notification ∈ news, notification.signal = signal) ↔ signal ≠ .iccid := by
  intro modem next run after
  obtain ⟨news, hsent, hnews⟩ := reports_announce_changes
    (show Reachable {} run from .start _ _) next .imsi
  refine ⟨news, hsent, fun signal => ?_⟩
  rw [hnews signal (fun h => absurd h (by decide))]
  cases signal <;> decide +kernel

end SimIdentity
