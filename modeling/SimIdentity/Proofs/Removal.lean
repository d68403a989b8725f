import SimIdentity.Proofs.Alike
import SimIdentity.Proofs.Failure

/-!
# A card that was removed

When the serial number is gone, the tracker forgets all it knew of the card. It is not the same
tracker as a new one: the dirty marks stay, and with them what was left to write. But a subscription
or a name that is not known any more cannot be written, so the marks are stale, and all they lead to
is that something is saved that the cache holds already.

So from then on nobody can tell the tracker from a new one, over a copy of the memory it has left
(`removed_card_leaves_no_trace`): not by what it knows or announces, nor by what it writes.
-/

namespace SimIdentity

/-! ### Copies of a memory -/

/-- Memories that can be reached and hold the same texts. Since they had seen so many commits, they
have seen the same number of them. -/
structure VolatileStore.Copies (count count' : Nat) (store other : VolatileStore) : Prop where
  /-- The first one can be reached. -/
  available : store.available = true
  /-- So can the second one. -/
  available' : other.available = true
  /-- They hold the same texts. -/
  get?_eq (address : Address) : store.get? address = other.get? address
  /-- They have seen the same number of commits since. -/
  committed_eq : other.committed + count = store.committed + count'

namespace Cache

variable {cfg : Config} {count count' : Nat} {store other : VolatileStore}

theorem copies_lookup (entry : Entry) (h : store.Copies count count' other) :
    (lookup cfg entry store).1 = (lookup cfg entry other).1 ∧
      (lookup cfg entry store).2.Copies count count' (lookup cfg entry other).2 := by
  rw [lookup_of_available h.available, lookup_of_available h.available', h.get?_eq]
  exact ⟨rfl, { h with }⟩

theorem copies_save (entry : Entry) (text : String) (h : store.Copies count count' other) :
    (save cfg entry text store).1 = (save cfg entry text other).1 ∧
      (save cfg entry text store).2.Copies count count' (save cfg entry text other).2 := by
  rw [save_of_available h.available, save_of_available h.available', h.get?_eq]
  split
  case isTrue => exact ⟨rfl, { h with }⟩
  case isFalse =>
    refine ⟨rfl, h.available, h.available', fun address => ?_, ?_⟩
    · show (store.insert (entry.address cfg) text).get? address =
        (other.insert (entry.address cfg) text).get? address
      rw [VolatileStore.get?_insert, VolatileStore.get?_insert, h.get?_eq]
    · have := h.committed_eq
      show other.committed + 1 + count = store.committed + 1 + count'
      omega

/-- Saving what was just found costs no commit. -/
theorem copies_save_found (entry : Entry) (text : String) (h : store.Copies count count' other)
    (hfound : (lookup cfg entry store).1 = .found text) :
    (save cfg entry text (lookup cfg entry store).2).1.succeeded = true ∧
      (save cfg entry text (lookup cfg entry store).2).2.Copies count count'
        (lookup cfg entry other).2 := by
  obtain ⟨-, hread⟩ := @copies_lookup cfg _ _ _ _ entry h
  have hheld : (lookup cfg entry store).2.get? (entry.address cfg) = some text := by
    rw [lookup_of_available h.available]
    exact get?_of_lookup_eq_found h.available hfound
  rw [save_of_available hread.available, if_pos hheld]
  exact ⟨rfl, { hread with }⟩

/-- The cache cannot tell copies of a memory apart, nor whether what it told was saved again. -/
def Kinship.copies (cfg : Config) (count count' : Nat) : Kinship VolatileStore cfg where
  akin := VolatileStore.Copies count count'
  lenient := True
  lookup := copies_lookup
  save := copies_save
  save_found entry text _ := copies_save_found entry text

end Cache

/-! ### The tracker that is left -/

variable {cfg : Config} {run : Run VolatileStore} {modem : Modem}

/-- When the card is gone, the tracker is like a new one that has not looked at the network yet. -/
theorem Run.alike_blank_of_removed (hfailed : run.writeFailed = false)
    (htracked : run.identity.iccid ≠ none) (hremoved : known modem.iccid = none)
    {copy : VolatileStore} {count count' : Nat} (hcopy : run.store.Copies count count' copy) :
    Alike (.copies cfg count count') (· ∈ (run.observeIccid cfg modem).due)
      { run.observeIccid cfg modem with attached := false }
      (observeIccid cfg modem { identity := { path := modem.path }, store := copy }) := by
  have hgone : run.observeIccid cfg modem =
      ({ run with identity.iccid := none }.queue .iccid).forgetCard := by
    simp only [observeIccid]
    rw [hremoved, if_neg htracked]
  have hblank : observeIccid cfg modem { identity := { path := modem.path }, store := copy } =
      ({ identity := { path := modem.path }, store := copy } : Run VolatileStore) := by
    simp only [observeIccid]
    rw [hremoved]
    exact if_pos rfl
  obtain ⟨trail, due, hforget⟩ :=
    forgetCard_touches ({ run with identity.iccid := none }.queue .iccid)
  rw [hgone, hblank, hforget]
  -- marks may be left, but they are stale, as neither a subscription nor a name is known
  exact
    { iccid_eq := rfl, imsi_eq := rfl, spn_eq := rfl, cardName_eq := rfl, cachedName_eq := rfl
      fallback_eq := rfl, attached_eq := rfl
      imsiDirty_or := .inr ⟨trivial, rfl, rfl⟩
      nameDirty_or := .inr ⟨trivial, rfl, rfl⟩
      writeFailed_eq := hfailed
      akin := hcopy
      mem_due_iff := fun signal => (or_iff_right (SignalSet.not_mem_empty signal)).symm }

/-- After everything was read again, the tracker whose card is gone is like a new one. -/
theorem Run.alike_start_of_removed (hfailed : run.writeFailed = false)
    (htracked : run.identity.iccid ≠ none) (hremoved : known modem.iccid = none)
    {copy : VolatileStore} {count count' : Nat} (hcopy : run.store.Copies count count' copy) :
    Alike (.copies cfg count count') (fun _ => False) (run.resync cfg modem)
      (start cfg modem copy) := by
  have hgone := @alike_blank_of_removed cfg _ _ hfailed htracked hremoved _ _ _ hcopy
  have hobserved := hgone.observeAll_of_observeIccid false
  have hresync : run.resync cfg modem = (run.observeAll cfg modem).announce := by
    simp only [resync]
    rw [retryWrites_of_not_failed hfailed]
  obtain ⟨_, hstart⟩ := start_touches cfg modem copy
  rw [hresync, hstart]
  exact { hobserved with mem_due_iff := fun _ => (or_false _).symm.to_iff }

/-- **A removed card leaves no trace.** Over a memory that can be reached at all times, take a
tracker that has a card, and have it read everything of a modem without one. From then on, whatever
it is called for, it knows the same, announces the same and writes the same as a tracker that began
then over a copy of the memory, except that each names the modem it began with. -/
theorem removed_card_leaves_no_trace (h : Reachable cfg run)
    (havailable : run.store.available = true) (htracked : run.identity.iccid ≠ none)
    (hremoved : known modem.iccid = none) {copy : VolatileStore} (hcopy : copy.available = true)
    (hsame : ∀ address, copy.get? address = run.store.get? address) (calls : List (Modem × Call)) :
    let old := (run.resync cfg modem).performAll cfg calls
    let fresh := (Run.start cfg modem copy).performAll cfg calls
    fresh.identity = { old.identity with path := modem.path } ∧ fresh.cardName = old.cardName ∧
      fresh.cachedName = old.cachedName ∧ fresh.fallback = old.fallback ∧
      fresh.attached = old.attached ∧
      (∀ address, fresh.store.get? address = old.store.get? address) ∧
      fresh.store.committed + run.store.committed = old.store.committed + copy.committed ∧
      ∀ modem' call, ∃ news,
        (old.perform cfg modem' call).sent = old.sent ++ news ∧
          (fresh.perform cfg modem' call).sent = fresh.sent ++ news.map (·.ofModem modem.path) := by
  intro old fresh
  have hcopies : run.store.Copies run.store.committed copy.committed copy :=
    ⟨havailable, hcopy, fun address => (hsame address).symm, Nat.add_comm _ _⟩
  have hlike : Alike (.copies cfg run.store.committed copy.committed) (fun _ => False) old fresh :=
    (Run.alike_start_of_removed (h.writeFailed_of_available havailable) htracked hremoved
      hcopies).performAll calls
  have hpath : fresh.identity.path = modem.path :=
    (Run.path_performAll cfg calls _).trans (Run.path_start cfg modem copy)
  refine ⟨?_, hlike.cardName_eq.symm, hlike.cachedName_eq.symm, hlike.fallback_eq.symm,
    hlike.attached_eq.symm, fun address => (hlike.akin.get?_eq address).symm,
    hlike.akin.committed_eq, fun modem' call => ?_⟩
  · exact Identity.eq_of_part hpath fun signal => (hlike.part_eq signal).symm
  · rw [← hpath]
    exact hlike.news_eq modem' call

/-- The first card left a dirty name behind, which the card after it does not get. -/
theorem next_card_after_removal :
    let slot : Modem := { path := "/ril_0" }
    let run :=
      Run.start {} { slot with iccid := some "8901", spn := some "Card" } (∅ : VolatileStore)
    let next := ({ slot with iccid := some "8902", imsi := some "00102" }, Call.resync)
    let old := (run.resync {} slot).performAll {} [next]
    let fresh := (Run.start {} slot run.store).performAll {} [next]
    Reachable {} run ∧ (run.resync {} slot).nameDirty = true ∧
      fresh.identity = { old.identity with path := slot.path } ∧
      fresh.identity.imsi = some "00102" ∧ fresh.cachedName = none ∧
      (∀ address, fresh.store.get? address = old.store.get? address) ∧
      fresh.store.committed = old.store.committed := by
  intro slot run next old fresh
  have hreachable : Reachable {} run := .start _ _
  have havailable : run.store.available = true := by decide +kernel
  obtain ⟨hidentity, -, -, -, -, hentries, hcommitted, -⟩ :=
    removed_card_leaves_no_trace hreachable havailable
      (show run.identity.iccid ≠ none by decide +kernel) (show known slot.iccid = none by decide)
      havailable (fun _ => rfl) [next]
  refine ⟨hreachable, ?_, hidentity, ?_, ?_, hentries, Nat.add_right_cancel hcommitted⟩
  · decide +kernel
  · decide +kernel
  · decide +kernel

end SimIdentity
