import SimIdentity.Proofs.Coherence
import SimIdentity.Proofs.Retry
import SimIdentity.Store.Unreliable

/-!
# A card that is gone

A modem that shows no serial number any more has lost its card, and so has one that shows an empty
one. Whatever else it still shows is no longer about a card in the slot, and none of it is looked
at: the subscription, the names and the fallback name are forgotten, wherever they came from.

What is left to find out is which signals are due. That of the serial number is, since there was
one; the other two are if there was something to lose (`forgetCard_eq`). For the name to show this
rests on the sources: none of them is left, so none is shown afterwards, and the signal is due
exactly if one was shown before.

## What is proved

`lost_card_is_forgotten`, for every reachable run over any stores. Since the stores may be such that
keep a record of the accesses, that they end as trying failed writes again leaves them says that
they are used for nothing else.
-/

namespace SimIdentity

variable {σ : Type}

namespace Run

/-- What is sent when a card that is shown like that is lost. -/
theorem toList_dueOnLoss (identity : Identity) :
    (dueOnLoss identity ((∅ : SignalSet).insert .iccid)).toList =
      [.iccid] ++ (if identity.imsi = none then [] else [.imsi]) ++
        (if identity.spn = none then [] else [.spn]) := by
  simp only [dueOnLoss]
  by_cases himsi : identity.imsi = none <;> by_cases hspn : identity.spn = none <;>
    simp only [himsi, hspn, if_true, if_false] <;> rfl

variable [StringStore σ]

/-- A tracked card that the modem does not show any more is forgotten. -/
theorem observeIccid_of_lost (cfg : Config) {modem : Modem} (hlost : known modem.iccid = none)
    (run : Run σ) (htracked : run.identity.iccid ≠ none) :
    ∃ trail, run.observeIccid cfg modem =
      { run with
        trail, due := dueOnLoss run.identity (run.due.insert .iccid)
        cardName := none, cachedName := none, fallback := ∅
        identity := { path := run.identity.path } } := by
  obtain ⟨trail, hforget⟩ := forgetCard_eq ({ run with identity.iccid := none }.queue .iccid)
  simp only [observeIccid]
  rw [hlost, if_neg htracked]
  exact ⟨trail, hforget⟩

/-- All that a call does to the stores before it looks at the modem is to save what is owed, and only
after a failure. -/
theorem store_retryWrites (cfg : Config) (run : Run σ) :
    (run.retryWrites cfg).store =
      if run.writeFailed then (Cache.saveAll cfg run.owed run.store).2 else run.store := by
  cases hfailed : run.writeFailed with
  | true => exact (savesAll_retryWrites cfg hfailed).store_eq
  | false =>
    rw [retryWrites_of_not_failed hfailed]
    rfl

/-- All that a call for a lost card does beyond trying failed writes again. -/
theorem perform_of_lost (cfg : Config) {modem : Modem} (hlost : known modem.iccid = none)
    {run : Run σ} (htracked : run.identity.iccid ≠ none) :
    ∃ trail, run.perform cfg modem (.report .iccid) =
      announce
        { run.retryWrites cfg with
          trail, due := dueOnLoss run.identity (run.due.insert .iccid)
          cardName := none, cachedName := none, fallback := ∅
          identity := { path := run.identity.path } } := by
  -- trying again leaves all that is forgotten, and all that decides what becomes due
  obtain ⟨_, _, _, _, _, hretry⟩ := retryWrites_touches cfg run
  obtain ⟨trail, hobserve⟩ := observeIccid_of_lost cfg hlost
    ((run.retryWrites cfg).note (.iccidReported modem.iccid)) (by rw [hretry]; exact htracked)
  refine ⟨trail, ?_⟩
  show (((run.retryWrites cfg).note _).observeIccid cfg modem).announce = _
  rw [hobserve, hretry]
  rfl

end Run

variable [StringStore σ] {cfg : Config} {modem : Modem} {run : Run σ}

/-- **A lost card is forgotten.** When the modem reports that there is no serial number any more,
where one was tracked, nothing is known of a card afterwards, whatever else the modem shows; only
whether a network is attached is as it was. The stores are used to try failed writes again, and for
nothing else. The signal of the serial number is sent, then that of the subscription if one was
tracked, then that of the name if one was shown, and no other, all with the identity that is left. -/
theorem lost_card_is_forgotten (h : Reachable cfg run) (htracked : run.identity.iccid ≠ none)
    (hlost : modem.iccid = none ∨ modem.iccid = some "") :
    let after := run.perform cfg modem (.report .iccid)
    let news : List Signal := [.iccid] ++ (if run.identity.imsi = none then [] else [.imsi]) ++
      (if run.identity.spn = none then [] else [.spn])
    after.identity = { path := run.identity.path } ∧ after.cardName = none ∧
      after.cachedName = none ∧ after.fallback = ∅ ∧ after.attached = run.attached ∧
      after.store =
        (if run.writeFailed then (Cache.saveAll cfg run.owed run.store).2 else run.store) ∧
      after.sent = run.sent ++ news.map fun signal => ⟨signal, { path := run.identity.path }⟩ := by
  intro after news
  have hnone : known modem.iccid = none := by
    rcases hlost with hlost | hlost
    · rw [hlost, known_none]
    · rw [hlost, known_empty]
  have hdue : run.due = ∅ := h.due_eq_empty
  have hstore := Run.store_retryWrites cfg run
  obtain ⟨trail, hafter⟩ := Run.perform_of_lost cfg hnone htracked
  obtain ⟨_, _, _, _, _, hretry⟩ := Run.retryWrites_touches cfg run
  rw [hretry] at hafter hstore
  rw [show after = _ from hafter]
  refine ⟨rfl, rfl, rfl, rfl, rfl, hstore, ?_⟩
  rw [show news = _ from (Run.toList_dueOnLoss run.identity).symm, ← hdue]
  rfl

/-- At home, with the first commit refused at the start, the card is lost while its subscription is
still to be saved. That is done, and then nothing is known of it. -/
theorem card_lost_at_home :
    let run := Run.start {} Modem.atHome
      (Recorded.ofStore ({ commitPlan := [false] } : UnreliableStore))
    let modem : Modem := { Modem.atHome with iccid := none }
    let after := run.perform {} modem (.report .iccid)
    run.writeFailed = true ∧ after.identity = { path := "/ril_0" } ∧
      after.store = (Cache.save {} (.imsiOf "8901") "00101" run.store).2 ∧
      after.sent.map (·.signal) = [.iccid, .imsi, .spn] := by
  intro run modem after
  have hreachable : Reachable {} run := .start _ _
  have hlost : modem.iccid = none ∨ modem.iccid = some "" := .inl rfl
  obtain ⟨hidentity, -, -, -, -, hstore, hsent⟩ :=
    lost_card_is_forgotten hreachable (by decide +kernel) hlost
  have hfailed : run.writeFailed = true := by decide +kernel
  have howed : run.owed = [(.imsiOf "8901", "00101")] := by decide +kernel
  refine ⟨hfailed, hidentity, ?_, ?_⟩
  · rw [show after.store = _ from hstore, if_pos hfailed, howed]
    rfl
  · rw [show after.sent = _ from hsent]
    decide +kernel

end SimIdentity
