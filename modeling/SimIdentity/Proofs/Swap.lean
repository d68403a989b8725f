import SimIdentity.Proofs.Coherence
import SimIdentity.Proofs.Ledger

/-!
# Another card in the slot

The slot may report another card without having been empty in between. If the cache knows the new
card, its subscription and its name are taken over from there, and nothing has to be written.

That is what happens, unless the old card had a name of its own (`swap_writes_nothing_iff`). Such
a name is held to be the new card's, too: it is shown on, and saved in the place of the one that
the cache holds for the new card.
-/

namespace SimIdentity

/-! ### The ledger -/

namespace Ledger

variable {ledger : Ledger} {modem : Modem} {iccid imsi name : String}

/-- A known card in the place of another one is taken over, up to the choice of its name. -/
theorem observeIccid_of_known (hreported : known modem.iccid = some iccid)
    (hnew : ledger.iccid ≠ some iccid) (hdirty : ledger.imsiDirty = false)
    (himsi : known (ledger.entries (.imsiOf iccid)) = some imsi) :
    ledger.observeIccid modem =
      { ledger with iccid := some iccid, imsi := some imsi }.recallName := by
  simp only [observeIccid, hreported, if_neg hnew, recallImsi, himsi]
  split
  case isTrue hsame => rw [← hsame]
  case isFalse => rw [← hdirty]

/-- Its name in the cache is taken over if the old card had none of its own, or the same one. -/
theorem recallName_of_agreeing (himsi : known ledger.imsi = some imsi)
    (hname : known (ledger.entries (.nameOf imsi)) = some name) (hdirty : ledger.nameDirty = false)
    (hcached : ledger.cardName ≠ none → ledger.cachedName = ledger.cardName)
    (hcard : ledger.cardName = none ∨ ledger.cardName = some name) :
    ledger.recallName = { ledger with cachedName := some name } := by
  simp only [recallName, himsi, hname]
  split
  case isTrue hsame => rw [← hsame]
  case isFalse hnew =>
    rcases hcard with hcard | hcard
    · rw [hcard, known_none, if_pos rfl, ← hdirty]
    · have hsame : ledger.cachedName = ledger.cardName :=
        hcached (by rw [hcard]; exact Option.some_ne_none name)
      exact (hnew (hsame.trans hcard)).elim

/-- It is overwritten by another name that the old card had. -/
theorem committed_recallName_of_other {other : String} (himsi : known ledger.imsi = some imsi)
    (hname : known (ledger.entries (.nameOf imsi)) = some name)
    (hcached : ledger.cachedName = ledger.cardName) (hcard : known ledger.cardName = some other)
    (hother : other ≠ name) :
    ledger.recallName.committed = ledger.committed + 1 := by
  obtain ⟨hcardName, -⟩ := known_eq_some_iff.1 hcard
  have hnew : ledger.cachedName ≠ some name := by
    rw [hcached, hcardName]
    exact fun h => hother (Option.some.inj h)
  have hheld : ledger.entries (.nameOf imsi) ≠ some other := by
    rw [(known_eq_some_iff.1 hname).1]
    exact fun h => hother (Option.some.inj h).symm
  have hsaved : { ledger with nameDirty := true }.persistName =
      { ledger.save (.nameOf imsi) other with nameDirty := false } :=
    persistName_of_known rfl himsi (by rw [hcached]; exact hcard)
  simp only [recallName, himsi, hname, if_neg hnew, hcard]
  rw [if_neg (Option.some_ne_none other), hsaved]
  exact if_neg hheld

end Ledger

variable {cfg : Config} {run : Run VolatileStore} {modem : Modem}

/-- For the cache, a report of the serial number is an observation of it, if nothing is pending. -/
theorem Run.ledger_handle_iccid (h : run.store.available = true)
    (hclean : run.hasPendingWrites = false) :
    (run.handle cfg modem .iccid).ledger cfg = (run.ledger cfg).observeIccid modem := by
  have hretry : Progress cfg none run (run.retryWrites cfg) := progress_retryWrites run
  show (((run.retryWrites cfg).note _).observeIccid cfg modem).ledger cfg = _
  rw [ledger_observeIccid]
  · exact congrArg (Ledger.observeIccid modem) (ledger_retryWrites_of_clean h hclean)
  · exact hretry.uses.available h

/-- After a known card was reported in the place of another one, all that is left to the cache is
the choice of its name. -/
theorem Run.ledger_swap (h : run.store.available = true) (hclean : run.hasPendingWrites = false)
    {old new imsi : String} (hold : run.identity.iccid = some old)
    (hnew : known modem.iccid = some new) (hother : new ≠ old)
    (himsi : known (run.store.cached cfg (.imsiOf new)) = some imsi) :
    (run.handle cfg modem .iccid).ledger cfg =
      Ledger.recallName { run.ledger cfg with iccid := some new, imsi := some imsi } := by
  obtain ⟨-, himsiDirty⟩ := Bool.or_eq_false_iff.1 hclean
  have hmoved : run.identity.iccid ≠ some new := by
    rw [hold]
    exact fun hsame => hother (Option.some.inj hsame).symm
  rw [ledger_handle_iccid h hclean]
  exact Ledger.observeIccid_of_known hnew hmoved himsiDirty himsi

/-- **A known card in the place of another one** is taken over from the cache without a write,
exactly if the old card had no name of its own, or the one that the cache holds for the new
card. -/
theorem swap_writes_nothing_iff (h : Reachable cfg run) (havailable : run.store.available = true)
    (hclean : run.hasPendingWrites = false) {old new imsi name : String}
    (hold : run.identity.iccid = some old) (hnew : known modem.iccid = some new)
    (hother : new ≠ old) (himsi : known (run.store.cached cfg (.imsiOf new)) = some imsi)
    (hname : known (run.store.cached cfg (.nameOf imsi)) = some name) :
    let after := run.handle cfg modem .iccid
    (after.store.committed = run.store.committed ∧
        (∀ address, after.store.get? address = run.store.get? address) ∧
        after.identity.imsi = some imsi ∧ after.identity.spn = some name) ↔
      (run.cardName = none ∨ run.cardName = some name) := by
  intro after
  have hcoherent := h.coherent
  have hafter : after.Coherent := (h.perform modem (.report .iccid)).coherent
  have hquiet := (Run.uses_perform cfg modem (.report .iccid) run).quiet havailable
  obtain ⟨hnameDirty, -⟩ := Bool.or_eq_false_iff.1 hclean
  have hknown : known (some imsi) = some imsi := known_some (known_eq_some_iff.1 himsi).2
  have hledger := Run.ledger_swap havailable hclean hold hnew hother himsi
  constructor
  · rintro ⟨hcommitted, -, -, -⟩
    cases hcard : run.cardName with
    | none => exact .inl rfl
    | some other =>
      refine .inr (congrArg some (Decidable.byContradiction fun hdiffers => ?_))
      have hnamed : run.cardName ≠ none := by
        rw [hcard]
        exact Option.some_ne_none other
      have hcardName : known run.cardName = some other :=
        (known_eq_self hcoherent.cardName_ne).trans hcard
      have hwritten : after.store.committed = run.store.committed + 1 :=
        (congrArg Ledger.committed hledger).trans
          (Ledger.committed_recallName_of_other hknown hname
            (hcoherent.cachedName_eq hnamed) hcardName hdiffers)
      omega
  · intro hcard
    have htaken : after.ledger cfg = { run.ledger cfg with
        iccid := some new, imsi := some imsi, cachedName := some name } :=
      hledger.trans
        (Ledger.recallName_of_agreeing hknown hname hnameDirty hcoherent.cachedName_eq hcard)
    have hcommitted : after.store.committed = run.store.committed :=
      congrArg Ledger.committed htaken
    refine ⟨hcommitted, hquiet.2 hcommitted, congrArg Ledger.imsi htaken, ?_⟩
    exact hafter.spn_of_cachedName (congrArg Ledger.cachedName htaken)

/-- A memory that knows the card of the serial number 8902. -/
def VolatileStore.knowing8902 : VolatileStore :=
  (∅ : VolatileStore).insert (Cache.Entry.address {} (.imsiOf "8902")) "00102"
    |>.insert (Cache.Entry.address {} (.nameOf "00102")) "New"

/-- A card without a name gives way to the known one. -/
theorem swap_from_nameless_card :
    let modem : Modem := { path := "/ril_0", iccid := some "8901", imsi := some "00101" }
    let run := Run.start {} modem VolatileStore.knowing8902
    let after := run.handle {} { modem with iccid := some "8902" } .iccid
    Reachable {} run ∧ run.hasPendingWrites = false ∧
      after.store.committed = run.store.committed ∧
      (∀ address, after.store.get? address = run.store.get? address) ∧
      after.identity.imsi = some "00102" ∧ after.identity.spn = some "New" := by
  intro modem run after
  have hreachable : Reachable {} run := .start _ _
  have hclean : run.hasPendingWrites = false := by decide +kernel
  refine ⟨hreachable, hclean, ?_⟩
  refine (swap_writes_nothing_iff hreachable (by decide +kernel) hclean (by decide +kernel)
    (show known (some "8902") = some "8902" by decide) (show "8902" ≠ "8901" by decide)
    (by decide +kernel) (by decide +kernel)).2 (.inl ?_)
  decide +kernel

/-- The name of another card is shown on, and saved for the known one. -/
theorem swap_overwrites_known_name :
    let modem : Modem :=
      { path := "/ril_0", iccid := some "8901", imsi := some "00101", spn := some "Old" }
    let run := Run.start {} modem VolatileStore.knowing8902
    let after := run.handle {}
      { modem with iccid := some "8902", imsi := some "00102", spn := some "New" } .iccid
    Reachable {} run ∧ run.store.available = true ∧ run.hasPendingWrites = false ∧
      run.identity.iccid = some "8901" ∧
      run.store.get? (Cache.Entry.address {} (.imsiOf "8902")) = some "00102" ∧
      run.store.get? (Cache.Entry.address {} (.nameOf "00102")) = some "New" ∧
      after.store.committed = run.store.committed + 1 ∧
      after.store.get? (Cache.Entry.address {} (.nameOf "00102")) = some "Old" ∧
      after.identity.spn = some "Old" := by
  intro modem run after
  refine ⟨.start _ _, ?_⟩
  decide +kernel

end SimIdentity
