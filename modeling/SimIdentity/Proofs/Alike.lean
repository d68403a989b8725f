import SimIdentity.Proofs.Delivery

/-!
# Trackers that work alike

Two trackers that know the same do the same, as long as the cache tells them the same. They need
not be in the same state for it: the modem's path, the trail and what was sent before play no part
in their work, their stores may differ in ways that the cache does not show (`Cache.Kinship`), and
one may have announced already what the other still has to announce.

Nor do the dirty marks have to agree at all times. A mark that was left behind, of a subscription
or a name that is not known any more, is without effect until the next one is known. If that one
comes from the modem or the card, it is dirty anyway. If it comes from the cache, the stale mark
has the tracker save what it has just found. So where saving a text that was just found keeps stores
akin, one of the trackers may have stale marks that the other one has not.

`Alike` is the relation, and for each step of a tracker there is a lemma that it keeps two trackers
alike.
-/

namespace SimIdentity

variable {σ : Type} [StringStore σ]

namespace Cache

/-- A relation between stores that the cache cannot tell apart. -/
structure Kinship (σ : Type) [StringStore σ] (cfg : Config) where
  /-- The stores are akin. -/
  akin : σ → σ → Prop
  /-- Whether saving a text that was just found may be left out on the second side. -/
  lenient : Prop
  /-- Looking an entry up has the same outcome on both sides, and keeps them akin. -/
  lookup {store other : σ} (entry : Entry) : akin store other →
    (lookup cfg entry store).1 = (lookup cfg entry other).1 ∧
      akin (lookup cfg entry store).2 (lookup cfg entry other).2
  /-- So has saving a text. -/
  save {store other : σ} (entry : Entry) (text : String) : akin store other →
    (save cfg entry text store).1 = (save cfg entry text other).1 ∧
      akin (save cfg entry text store).2 (save cfg entry text other).2
  /-- A text that was just found is saved with success, and may as well not be saved. -/
  save_found {store other : σ} (entry : Entry) (text : String) : lenient → akin store other →
    (Cache.lookup cfg entry store).1 = .found text →
      (Cache.save cfg entry text (Cache.lookup cfg entry store).2).1.succeeded = true ∧
        akin (Cache.save cfg entry text (Cache.lookup cfg entry store).2).2
          (Cache.lookup cfg entry other).2

/-- Equal stores are akin. -/
def Kinship.same (σ : Type) [StringStore σ] (cfg : Config) : Kinship σ cfg where
  akin := Eq
  lenient := False
  lookup entry h := by rw [h]; exact ⟨rfl, rfl⟩
  save entry text h := by rw [h]; exact ⟨rfl, rfl⟩
  save_found _ _ h := h.elim

end Cache

attribute [ext] Tracker

/-- The notification, in the name of another modem. -/
def Notification.ofModem (path : String) (notification : Notification) : Notification :=
  { notification with identity.path := path }

namespace Run

variable {cfg : Config} {run : Run σ}

theorem persistImsi_of_clean (h : run.imsiDirty = false) : run.persistImsi cfg = run := by
  simp only [persistImsi]
  rw [h]

theorem persistName_of_clean (h : run.nameDirty = false) : run.persistName cfg = run := by
  simp only [persistName]
  rw [h]

/-- Where no subscription is known, there is none to save. -/
theorem persistImsi_of_imsi_none (h : run.identity.imsi = none) : run.persistImsi cfg = run := by
  simp only [persistImsi]
  rw [h, known_none]
  split
  · contradiction
  · rfl

/-- Where no name is known, there is none to save. -/
theorem persistName_of_cachedName_none (h : run.cachedName = none) :
    run.persistName cfg = run := by
  simp only [persistName]
  rw [h, known_none]
  split
  · contradiction
  · rfl

end Run

/-- The trackers know the same of the card, and have the same to do about it. What the first one has
to announce, the second one has to announce as well, or it was `heard` from it. -/
structure Alike {cfg : Config} (kin : Cache.Kinship σ cfg) (heard : Signal → Prop)
    (run other : Run σ) : Prop where
  /-- They know the same serial number. -/
  iccid_eq : run.identity.iccid = other.identity.iccid
  /-- They know the same subscription. -/
  imsi_eq : run.identity.imsi = other.identity.imsi
  /-- They show the same name. -/
  spn_eq : run.identity.spn = other.identity.spn
  /-- They know the same name on the card. -/
  cardName_eq : run.cardName = other.cardName
  /-- They know the same name for the cache. -/
  cachedName_eq : run.cachedName = other.cachedName
  /-- They know the same fallback name. -/
  fallback_eq : run.fallback = other.fallback
  /-- They agree on whether a network is attached. -/
  attached_eq : run.attached = other.attached
  /-- They agree on whether the subscription is dirty, unless the first one's mark is stale. -/
  imsiDirty_or : run.imsiDirty = other.imsiDirty ∨
    kin.lenient ∧ other.identity.imsi = none ∧ other.imsiDirty = false
  /-- They agree on whether the name is dirty, unless the first one's mark is stale. -/
  nameDirty_or : run.nameDirty = other.nameDirty ∨
    kin.lenient ∧ other.cachedName = none ∧ other.nameDirty = false
  /-- They agree on whether a write failed. -/
  writeFailed_eq : run.writeFailed = other.writeFailed
  /-- Their stores are akin. -/
  akin : kin.akin run.store other.store
  /-- What is due on the first side is due on the second one, or was heard from it. -/
  mem_due_iff (signal : Signal) : signal ∈ run.due ↔ signal ∈ other.due ∨ heard signal

namespace Alike

variable {cfg : Config} {kin : Cache.Kinship σ cfg} {heard : Signal → Prop} {run other : Run σ}

/-- Over one store, no mark is stale. -/
theorem imsiDirty_eq (h : Alike (.same σ cfg) heard run other) :
    run.imsiDirty = other.imsiDirty :=
  h.imsiDirty_or.resolve_right fun hstale => hstale.1

theorem nameDirty_eq (h : Alike (.same σ cfg) heard run other) :
    run.nameDirty = other.nameDirty :=
  h.nameDirty_or.resolve_right fun hstale => hstale.1

/-- A tracker is like itself. -/
theorem refl (run : Run σ) (hheard : ∀ signal, ¬ heard signal) :
    Alike (.same σ cfg) heard run run where
  iccid_eq := rfl
  imsi_eq := rfl
  spn_eq := rfl
  cardName_eq := rfl
  cachedName_eq := rfl
  fallback_eq := rfl
  attached_eq := rfl
  imsiDirty_or := .inl rfl
  nameDirty_or := .inl rfl
  writeFailed_eq := rfl
  akin := rfl
  mem_due_iff signal := (or_iff_left (hheard signal)).symm

theorem trans {last : Run σ} (h : Alike (.same σ cfg) (fun _ => False) run other)
    (h' : Alike (.same σ cfg) heard other last) : Alike (.same σ cfg) heard run last where
  iccid_eq := h.iccid_eq.trans h'.iccid_eq
  imsi_eq := h.imsi_eq.trans h'.imsi_eq
  spn_eq := h.spn_eq.trans h'.spn_eq
  cardName_eq := h.cardName_eq.trans h'.cardName_eq
  cachedName_eq := h.cachedName_eq.trans h'.cachedName_eq
  fallback_eq := h.fallback_eq.trans h'.fallback_eq
  attached_eq := h.attached_eq.trans h'.attached_eq
  imsiDirty_or := .inl (h.imsiDirty_eq.trans h'.imsiDirty_eq)
  nameDirty_or := .inl (h.nameDirty_eq.trans h'.nameDirty_eq)
  writeFailed_eq := h.writeFailed_eq.trans h'.writeFailed_eq
  akin := Eq.trans h.akin h'.akin
  mem_due_iff signal :=
    (h.mem_due_iff signal).trans ((or_false _).to_iff.trans (h'.mem_due_iff signal))

theorem part_eq (h : Alike kin heard run other) (signal : Signal) :
    run.identity.part signal = other.identity.part signal := by
  cases signal with
  | iccid => exact h.iccid_eq
  | imsi => exact h.imsi_eq
  | spn => exact h.spn_eq

/-! ### The small steps -/

theorem note (h : Alike kin heard run other) (event event' : Event) :
    Alike kin heard (run.note event) (other.note event') :=
  { h with }

theorem queue (h : Alike kin heard run other) (signal : Signal) :
    Alike kin heard (run.queue signal) (other.queue signal) :=
  { h with
    mem_due_iff := fun due => by
      rw [Run.queue, Run.queue, SignalSet.mem_insert, SignalSet.mem_insert, h.mem_due_iff,
        or_assoc] }

/-- An entry of the cache tells both the same. If one of them may be lenient, it may do without
saving what was found. -/
theorem lookup (h : Alike kin heard run other) (entry : Cache.Entry) :
    ∃ outcome store trail store' trail',
      run.lookup cfg entry = (outcome, { run with store, trail }) ∧
        other.lookup cfg entry = (outcome, { other with store := store', trail := trail' }) ∧
        kin.akin store store' ∧
        (kin.lenient → ∀ text, outcome = .found text →
          (Cache.save cfg entry text store).1.succeeded = true ∧
            kin.akin (Cache.save cfg entry text store).2 store') := by
  obtain ⟨outcome, store, trail, hcache, hrun⟩ := Run.lookup_touches cfg entry run
  obtain ⟨outcome', store', trail', hcache', hother⟩ := Run.lookup_touches cfg entry other
  obtain ⟨houtcome, hakin⟩ := kin.lookup entry h.akin
  rw [hcache, hcache'] at houtcome hakin
  obtain rfl : outcome = outcome' := houtcome
  refine ⟨outcome, store, trail, store', trail', hrun, hother, hakin, fun hlenient text htext => ?_⟩
  have hfound := kin.save_found entry text hlenient h.akin
  rw [hcache, hcache'] at hfound
  exact hfound htext

theorem save (h : Alike kin heard run other) (entry : Cache.Entry) (text : String) :
    (run.save cfg entry text).1 = (other.save cfg entry text).1 ∧
      Alike kin heard (run.save cfg entry text).2 (other.save cfg entry text).2 := by
  obtain ⟨houtcome, hakin⟩ := kin.save entry text h.akin
  exact ⟨houtcome, { h with akin := hakin }⟩

/-! ### Saving -/

theorem persistImsi (h : Alike kin heard run other) :
    Alike kin heard (run.persistImsi cfg) (other.persistImsi cfg) := by
  rcases h.imsiDirty_or with hdirty | ⟨-, hnone, -⟩
  · simp only [Run.persistImsi]
    rw [hdirty, h.iccid_eq, h.imsi_eq]
    split
    case h_1 iccid imsi _ _ _ =>
      obtain ⟨houtcome, hsaved⟩ := h.save (.imsiOf iccid) imsi
      rw [houtcome]
      split
      · exact { hsaved with imsiDirty_or := .inl rfl }
      · exact { hsaved with writeFailed_eq := rfl }
    case h_2 => exact h
  · rw [Run.persistImsi_of_imsi_none (h.imsi_eq.trans hnone), Run.persistImsi_of_imsi_none hnone]
    exact h

theorem persistName (h : Alike kin heard run other) :
    Alike kin heard (run.persistName cfg) (other.persistName cfg) := by
  rcases h.nameDirty_or with hdirty | ⟨-, hnone, -⟩
  · simp only [Run.persistName]
    rw [hdirty, h.imsi_eq, h.cachedName_eq]
    split
    case h_1 imsi name _ _ _ =>
      obtain ⟨houtcome, hsaved⟩ := h.save (.nameOf imsi) name
      rw [houtcome]
      split
      · exact { hsaved with nameDirty_or := .inl rfl }
      · exact { hsaved with writeFailed_eq := rfl }
    case h_2 => exact h
  · rw [Run.persistName_of_cachedName_none (h.cachedName_eq.trans hnone),
      Run.persistName_of_cachedName_none hnone]
    exact h

/-- A stale mark has the first tracker save the subscription that it has just found. -/
theorem persistImsi_of_found (h : Alike kin heard { run with imsiDirty := other.imsiDirty } other)
    {iccid imsi : String} (hiccid : known run.identity.iccid = some iccid)
    (himsi : known run.identity.imsi = some imsi)
    (hdirty : run.imsiDirty = other.imsiDirty ∨ other.imsiDirty = false ∧
      (Cache.save cfg (.imsiOf iccid) imsi run.store).1.succeeded = true ∧
        kin.akin (Cache.save cfg (.imsiOf iccid) imsi run.store).2 other.store) :
    Alike kin heard (run.persistImsi cfg) (other.persistImsi cfg) := by
  rcases hdirty with hdirty | ⟨hclean, hsucceeded, hakin⟩
  · have h' : Alike kin heard run other := { h with imsiDirty_or := .inl hdirty }
    exact h'.persistImsi
  · have hother : other.persistImsi cfg = other := Run.persistImsi_of_clean hclean
    cases hrun : run.imsiDirty with
    | false =>
      have hrun' : run.persistImsi cfg = run := Run.persistImsi_of_clean hrun
      rw [hrun', hother]
      exact { h with imsiDirty_or := .inl (hrun.trans hclean.symm) }
    | true =>
      have hsaved : run.persistImsi cfg =
          { (run.save cfg (.imsiOf iccid) imsi).2 with imsiDirty := false } := by
        simp only [Run.persistImsi]
        rw [hrun, hiccid, himsi]
        exact if_pos hsucceeded
      rw [hsaved, hother]
      exact { h with imsiDirty_or := .inl hclean.symm, akin := hakin }

/-- A stale mark has the first tracker save the name that it has just found. -/
theorem persistName_of_found (h : Alike kin heard { run with nameDirty := other.nameDirty } other)
    {imsi name : String} (himsi : known run.identity.imsi = some imsi)
    (hname : known run.cachedName = some name)
    (hdirty : run.nameDirty = other.nameDirty ∨ other.nameDirty = false ∧
      (Cache.save cfg (.nameOf imsi) name run.store).1.succeeded = true ∧
        kin.akin (Cache.save cfg (.nameOf imsi) name run.store).2 other.store) :
    Alike kin heard (run.persistName cfg) (other.persistName cfg) := by
  rcases hdirty with hdirty | ⟨hclean, hsucceeded, hakin⟩
  · have h' : Alike kin heard run other := { h with nameDirty_or := .inl hdirty }
    exact h'.persistName
  · have hother : other.persistName cfg = other := Run.persistName_of_clean hclean
    cases hrun : run.nameDirty with
    | false =>
      have hrun' : run.persistName cfg = run := Run.persistName_of_clean hrun
      rw [hrun', hother]
      exact { h with nameDirty_or := .inl (hrun.trans hclean.symm) }
    | true =>
      have hsaved : run.persistName cfg =
          { (run.save cfg (.nameOf imsi) name).2 with nameDirty := false } := by
        simp only [Run.persistName]
        rw [hrun, himsi, hname]
        exact if_pos hsucceeded
      rw [hsaved, hother]
      exact { h with nameDirty_or := .inl hclean.symm, akin := hakin }

theorem retryWrites (h : Alike kin heard run other) :
    Alike kin heard (run.retryWrites cfg) (other.retryWrites cfg) := by
  simp only [Run.retryWrites]
  rw [h.writeFailed_eq]
  split
  · have hretrying : Alike kin heard ({ run with writeFailed := false }.note .retrying)
        ({ other with writeFailed := false }.note .retrying) := { h with writeFailed_eq := rfl }
    exact hretrying.persistImsi.persistName
  · exact h

/-! ### Choosing the name -/

theorem refreshPublicName (h : Alike kin heard run other) :
    Alike kin heard run.refreshPublicName other.refreshPublicName := by
  simp only [Run.refreshPublicName]
  rw [h.cardName_eq, h.cachedName_eq, h.fallback_eq, h.spn_eq]
  split
  · exact h
  · refine queue ?_ .spn
    exact { h with spn_eq := rfl }

theorem refreshFallback (h : Alike kin heard run other) (modem : Modem) :
    Alike kin heard (run.refreshFallback modem) (other.refreshFallback modem) := by
  simp only [Run.refreshFallback]
  rw [h.fallback_eq]
  split
  · exact h
  · refine refreshPublicName ?_
    exact { h with fallback_eq := rfl }

theorem adoptName (h : Alike kin heard run other) (name : String) :
    Alike kin heard (run.adoptName cfg name) (other.adoptName cfg name) := by
  simp only [Run.adoptName]
  rw [h.cachedName_eq]
  split
  · exact h
  · refine refreshPublicName (persistName ?_)
    exact { h with cachedName_eq := rfl, nameDirty_or := .inl rfl }

theorem adoptCardName (h : Alike kin heard run other) (name : String) :
    Alike kin heard (run.adoptCardName cfg name) (other.adoptCardName cfg name) := by
  simp only [Run.adoptCardName]
  rw [h.cardName_eq]
  split
  · exact h
  · refine refreshPublicName (persistName (adoptName ?_ name))
    exact { h with cardName_eq := rfl, nameDirty_or := .inl rfl }

theorem adoptHomeOperator (h : Alike kin heard run other) (modem : Modem) :
    Alike kin heard (run.adoptHomeOperator cfg modem) (other.adoptHomeOperator cfg modem) := by
  simp only [Run.adoptHomeOperator]
  cases modem.homeOperator? with
  | none => exact h
  | some name =>
    have hnote := h.note (.homeNetwork name) (.homeNetwork name)
    dsimp only
    rw [hnote.cardName_eq]
    split
    · exact hnote.adoptName name
    · exact hnote

/-! ### Recalling a card -/

theorem recallImsi (h : Alike kin heard run other) (modem : Modem) {iccid : String}
    (hiccid : known run.identity.iccid = some iccid) :
    Alike kin heard (run.recallImsi cfg modem iccid) (other.recallImsi cfg modem iccid) := by
  obtain ⟨outcome, store, trail, store', trail', hrun, hother, hakin, hfound⟩ :=
    h.lookup (.imsiOf iccid)
  have hread : Alike kin heard { run with store, trail }
      { other with store := store', trail := trail' } := { h with akin := hakin }
  simp only [Run.recallImsi]
  rw [hrun, hother]
  cases outcome with
  | missing => exact hread
  | unreadable => exact hread
  | found imsi =>
    dsimp only
    rw [h.imsi_eq]
    split
    case isTrue => exact hread
    case isFalse hnew =>
      have himsi : known (some imsi) = some imsi := known_some (not_or.1 hnew).1
      refine queue (refreshFallback ?_ modem) .imsi
      -- with an old subscription both become dirty; without one, a mark of the first side is stale
      cases hold : known other.identity.imsi with
      | some old =>
        refine persistImsi ?_
        exact { hread with imsi_eq := rfl, imsiDirty_or := .inl rfl }
      | none =>
        refine persistImsi_of_found ?_ hiccid himsi ?_
        · exact { hread with imsi_eq := rfl, imsiDirty_or := .inl rfl }
        · rcases h.imsiDirty_or with hdirty | ⟨hlenient, -, hclean⟩
          · exact .inl hdirty
          · exact .inr ⟨hclean, hfound hlenient imsi rfl⟩

theorem recallName (h : Alike kin heard run other) :
    Alike kin heard (run.recallName cfg) (other.recallName cfg) := by
  simp only [Run.recallName]
  rw [h.imsi_eq]
  cases himsi : known other.identity.imsi with
  | none => exact h
  | some imsi =>
    obtain ⟨outcome, store, trail, store', trail', hrun, hother, hakin, hfound⟩ :=
      h.lookup (.nameOf imsi)
    have hread : Alike kin heard { run with store, trail }
        { other with store := store', trail := trail' } := { h with akin := hakin }
    dsimp only
    rw [hrun, hother]
    cases outcome with
    | missing => exact hread
    | unreadable => exact hread
    | found name =>
      dsimp only
      rw [h.cachedName_eq, h.cardName_eq]
      split
      case isTrue => exact hread
      case isFalse hnew =>
        have hname : known (some name) = some name := known_some (not_or.1 hnew).1
        split
        case isTrue =>
          refine persistName ?_
          exact { hread with nameDirty_or := .inl rfl }
        case isFalse =>
          refine refreshPublicName ?_
          cases hold : known other.cachedName with
          | some old =>
            refine persistName ?_
            exact { hread with cachedName_eq := rfl, nameDirty_or := .inl rfl }
          | none =>
            refine persistName_of_found ?_ ((congrArg known h.imsi_eq).trans himsi) hname ?_
            · exact { hread with cachedName_eq := rfl, nameDirty_or := .inl rfl }
            · rcases h.nameDirty_or with hdirty | ⟨hlenient, -, hclean⟩
              · exact .inl hdirty
              · exact .inr ⟨hclean, hfound hlenient name rfl⟩

theorem recallCard (h : Alike kin heard run other) (modem : Modem) {iccid : String}
    (hiccid : known run.identity.iccid = some iccid) :
    Alike kin heard (run.recallCard cfg modem iccid) (other.recallCard cfg modem iccid) :=
  (h.recallImsi modem hiccid).recallName

theorem forgetCard (h : Alike kin heard run other) :
    Alike kin heard run.forgetCard other.forgetCard := by
  have hlost := h.note .iccidLost .iccidLost
  have himsi : run.imsiDirty = other.imsiDirty ∨
      kin.lenient ∧ (none : Option String) = none ∧ other.imsiDirty = false :=
    h.imsiDirty_or.imp_right fun ⟨hlenient, _, hclean⟩ => ⟨hlenient, rfl, hclean⟩
  have hname : run.nameDirty = other.nameDirty ∨
      kin.lenient ∧ (none : Option String) = none ∧ other.nameDirty = false :=
    h.nameDirty_or.imp_right fun ⟨hlenient, _, hclean⟩ => ⟨hlenient, rfl, hclean⟩
  simp only [Run.forgetCard]
  rw [hlost.imsi_eq]
  refine refreshPublicName ?_
  split
  · exact
      { hlost with
        imsi_eq := rfl, cardName_eq := rfl, cachedName_eq := rfl, fallback_eq := rfl
        imsiDirty_or := himsi, nameDirty_or := hname }
  · exact
      { hlost.queue .imsi with
        imsi_eq := rfl, cardName_eq := rfl, cachedName_eq := rfl, fallback_eq := rfl
        imsiDirty_or := himsi, nameDirty_or := hname }

/-! ### Observing the modem -/

theorem observeIccid (h : Alike kin heard run other) (modem : Modem) :
    Alike kin heard (run.observeIccid cfg modem) (other.observeIccid cfg modem) := by
  simp only [Run.observeIccid]
  rw [h.iccid_eq]
  split
  · exact h
  · have hnew : Alike kin heard ({ run with identity.iccid := known modem.iccid }.queue .iccid)
        ({ other with identity.iccid := known modem.iccid }.queue .iccid) := by
      refine queue ?_ .iccid
      exact { h with iccid_eq := rfl }
    cases hiccid : known modem.iccid with
    | none =>
      rw [hiccid] at hnew
      exact hnew.forgetCard
    | some iccid =>
      rw [hiccid] at hnew
      exact hnew.recallCard modem (known_some (known_eq_some_iff.1 hiccid).2)

theorem adoptImsi (h : Alike kin heard run other) (imsi : String) :
    Alike kin heard (run.adoptImsi cfg imsi) (other.adoptImsi cfg imsi) := by
  simp only [Run.adoptImsi]
  rw [h.imsi_eq]
  split
  · exact h
  · refine queue (persistName (recallName (persistImsi ?_))) .imsi
    exact { h with imsi_eq := rfl, imsiDirty_or := .inl rfl }

theorem observeImsi (h : Alike kin heard run other) (modem : Modem) :
    Alike kin heard (run.observeImsi cfg modem) (other.observeImsi cfg modem) := by
  simp only [Run.observeImsi]
  refine refreshFallback ?_ modem
  cases known modem.imsi with
  | none => exact h
  | some imsi => exact h.adoptImsi imsi

theorem observeCardName (h : Alike kin heard run other) (modem : Modem) :
    Alike kin heard (run.observeCardName cfg modem) (other.observeCardName cfg modem) := by
  simp only [Run.observeCardName]
  cases known modem.spn with
  | none => exact h
  | some name => exact h.adoptCardName name

/-- Observing the network, the trackers come to agree on whether one is attached. -/
theorem observeNetwork (attached : Bool) (h : Alike kin heard { run with attached } other)
    (modem : Modem) :
    Alike kin heard (run.observeNetwork cfg modem) (other.observeNetwork cfg modem) := by
  obtain ⟨trail, hrun⟩ := Run.observeNetwork_eq_adoptHomeOperator cfg modem run
  obtain ⟨trail', hother⟩ := Run.observeNetwork_eq_adoptHomeOperator cfg modem other
  rw [hrun, hother]
  refine adoptHomeOperator ?_ modem
  exact { h with attached_eq := rfl }

/-! ### Calls -/

theorem observe (h : Alike kin heard run other) (modem : Modem) (change : Change) :
    Alike kin heard (run.observe cfg modem change) (other.observe cfg modem change) := by
  cases change with
  | iccid => exact (h.note _ _).observeIccid modem
  | imsi => exact h.observeImsi modem
  | spn => exact h.observeCardName modem
  | network => exact observeNetwork run.attached h modem
  | networkStatus =>
    simp only [Run.observe]
    rw [h.attached_eq]
    split
    · exact h.adoptHomeOperator modem
    · exact h

/-- It is enough that the trackers agree on the network after both have looked at it. -/
theorem observeAll_of_observeIccid (attached : Bool) {modem : Modem}
    (h : Alike kin heard { run.observeIccid cfg modem with attached }
      (other.observeIccid cfg modem)) :
    Alike kin heard (run.observeAll cfg modem) (other.observeAll cfg modem) :=
  (((observeNetwork attached h modem).observeImsi modem).observeCardName modem).adoptHomeOperator
    modem

theorem observeAll (h : Alike kin heard run other) (modem : Modem) :
    Alike kin heard (run.observeAll cfg modem) (other.observeAll cfg modem) :=
  observeAll_of_observeIccid _ (h.observeIccid modem)

/-- After an announcement of all that was due, there is nothing left that only one side heard. -/
theorem announce (h : Alike kin heard run other) :
    Alike kin (fun _ => False) run.announce other.announce :=
  { h with mem_due_iff := fun _ => (or_false _).symm.to_iff }

/-- Called for the same thing, alike trackers are alike when they announce. -/
theorem perform (h : Alike kin heard run other) (modem : Modem) (call : Call) :
    ∃ later later', Alike kin heard later later' ∧
      Progress cfg none run later ∧ run.perform cfg modem call = later.announce ∧
      Progress cfg none other later' ∧ other.perform cfg modem call = later'.announce := by
  have hretry := h.retryWrites
  have hrun : Progress cfg none run (run.retryWrites cfg) := Run.progress_retryWrites run
  have hother : Progress cfg none other (other.retryWrites cfg) := Run.progress_retryWrites other
  cases call with
  | report change =>
    exact ⟨_, _, hretry.observe modem change, hrun.trans (Run.progress_observe modem change _), rfl,
      hother.trans (Run.progress_observe modem change _), rfl⟩
  | resync =>
    exact ⟨_, _, hretry.observeAll modem, hrun.trans (Run.progress_observeAll modem _), rfl,
      hother.trans (Run.progress_observeAll modem _), rfl⟩

/-- Alike trackers stay alike over any number of calls. -/
theorem performAll (h : Alike kin (fun _ => False) run other) (calls : List (Modem × Call)) :
    Alike kin (fun _ => False) (run.performAll cfg calls) (other.performAll cfg calls) := by
  induction calls generalizing run other with
  | nil => exact h
  | cons head rest ih =>
    obtain ⟨later, later', hlater, -, hrun, -, hother⟩ := h.perform head.1 head.2
    rw [Run.performAll_cons, Run.performAll_cons, hrun, hother]
    exact ih hlater.announce

/-- They send the same news, each in the name of its modem. -/
theorem news_eq (h : Alike kin (fun _ => False) run other) (modem : Modem) (call : Call) :
    ∃ news, (run.perform cfg modem call).sent = run.sent ++ news ∧
      (other.perform cfg modem call).sent =
        other.sent ++ news.map (·.ofModem other.identity.path) := by
  obtain ⟨later, later', hlater, hprogress, hrun, hprogress', hother⟩ := h.perform modem call
  have hdue : later.due = later'.due :=
    SignalSet.eq_of_mem_iff fun signal => (hlater.mem_due_iff signal).trans (or_false _).to_iff
  have hidentity : later'.identity = { later.identity with path := other.identity.path } :=
    Identity.eq_of_part hprogress'.path_eq fun signal => (hlater.part_eq signal).symm
  refine ⟨later.due.toList.map fun signal => { signal, identity := later.identity }, ?_, ?_⟩
  · rw [hrun, ← hprogress.sent_eq]
    rfl
  · rw [hother, ← hprogress'.sent_eq, List.map_map, hdue]
    show later'.sent ++ later'.due.toList.map _ = _
    rw [hidentity]
    rfl

/-- Over one store, what alike trackers of one modem leave behind is the same. -/
theorem toTracker_eq (h : Alike (.same σ cfg) heard run other)
    (hpath : run.identity.path = other.identity.path) (hdue : run.due = other.due) :
    run.toTracker = other.toTracker := by
  have hidentity : run.identity = other.identity := Identity.eq_of_part hpath h.part_eq
  exact Tracker.ext hidentity h.cardName_eq h.cachedName_eq h.fallback_eq h.attached_eq
    h.imsiDirty_eq h.nameDirty_eq h.writeFailed_eq hdue h.akin

end Alike

end SimIdentity
