import Mathlib.Logic.Function.Basic
import SimIdentity.Proofs.Memory

/-!
# The ledger of a tracker

Most of what a tracker does over a memory that can be reached at all times has nothing to do
with the cache: the trail, the signals, the name shown. A `Ledger` is what is left without it:
what is known of the card, what is dirty, what the cache holds and how many commits that took.

Each step of a tracker is a step of its ledger, which is simpler: recalling a subscription never
writes, neither does recalling a name for a card without a name of its own, and the several
attempts to save the card's name come down to one. `ledger_f` says so of the step `f`.
-/

namespace SimIdentity

/-- What the cache has to do with a tracker. -/
structure Ledger where
  /-- The serial number of the card. -/
  iccid : Option String := none
  /-- The subscription. -/
  imsi : Option String := none
  /-- The name the card reported. -/
  cardName : Option String := none
  /-- The name for the cache. -/
  cachedName : Option String := none
  /-- Whether the subscription may differ from the cached one. -/
  imsiDirty : Bool := false
  /-- Whether the name may differ from the cached one. -/
  nameDirty : Bool := false
  /-- What the cache holds. -/
  entries : Cache.Entry → Option String
  /-- How many commits the memory has seen. -/
  committed : Nat

namespace Ledger

/-! ### The steps of a ledger -/

/-- Saves an entry, which costs a commit if the cache does not hold the text. -/
def save (entry : Cache.Entry) (text : String) (ledger : Ledger) : Ledger :=
  { ledger with
    entries := Function.update ledger.entries entry (some text)
    committed := if ledger.entries entry = some text then ledger.committed
      else ledger.committed + 1 }

/-- Saves the subscription, if it is dirty and known. -/
def persistImsi (ledger : Ledger) : Ledger :=
  match ledger.imsiDirty, known ledger.iccid, known ledger.imsi with
  | true, some iccid, some imsi => { ledger.save (.imsiOf iccid) imsi with imsiDirty := false }
  | _, _, _ => ledger

/-- Saves the name, if it is dirty and known. -/
def persistName (ledger : Ledger) : Ledger :=
  match ledger.nameDirty, known ledger.imsi, known ledger.cachedName with
  | true, some imsi, some name => { ledger.save (.nameOf imsi) name with nameDirty := false }
  | _, _, _ => ledger

/-- Takes over a name for the cache. -/
def adoptName (name : String) (ledger : Ledger) : Ledger :=
  if ledger.cachedName = some name then ledger
  else { ledger with cachedName := some name, nameDirty := true }.persistName

/-- Takes over the name that the card has. -/
def adoptCardName (name : String) (ledger : Ledger) : Ledger :=
  if ledger.cardName = some name then ledger
  else
    { ledger with cardName := some name, cachedName := some name, nameDirty := true }.persistName

/-- Takes over the operator's name. -/
def adoptHomeOperator (modem : Modem) (ledger : Ledger) : Ledger :=
  match modem.homeOperator? with
  | none => ledger
  | some name => if known ledger.cardName = none then ledger.adoptName name else ledger

/-- Takes over the subscription the cache holds for the card. -/
def recallImsi (iccid : String) (ledger : Ledger) : Ledger :=
  match known (ledger.entries (.imsiOf iccid)) with
  | none => ledger
  | some imsi =>
    if ledger.imsi = some imsi then ledger
    else { ledger with imsi := some imsi, imsiDirty := false }

/-- Takes over the name the cache holds for the subscription, or makes the cache agree with the
name on the card. -/
def recallName (ledger : Ledger) : Ledger :=
  match known ledger.imsi with
  | none => ledger
  | some imsi =>
    match known (ledger.entries (.nameOf imsi)) with
    | none => ledger
    | some name =>
      if ledger.cachedName = some name then ledger
      else if known ledger.cardName = none then
        { ledger with cachedName := some name, nameDirty := false }
      else { ledger with nameDirty := true }.persistName

/-- Observes the serial number. -/
def observeIccid (modem : Modem) (ledger : Ledger) : Ledger :=
  if ledger.iccid = known modem.iccid then ledger
  else
    match known modem.iccid with
    | some iccid => ({ ledger with iccid := some iccid }.recallImsi iccid).recallName
    | none => { ledger with iccid := none, imsi := none, cardName := none, cachedName := none }

/-- Takes over the subscription that the modem reports. -/
def adoptImsi (imsi : String) (ledger : Ledger) : Ledger :=
  if ledger.imsi = some imsi then ledger
  else
    ({ ledger with imsi := some imsi, imsiDirty := true }.persistImsi.recallName).persistName

/-- Observes the subscription. -/
def observeImsi (modem : Modem) (ledger : Ledger) : Ledger :=
  match known modem.imsi with
  | some imsi => ledger.adoptImsi imsi
  | none => ledger

/-- Observes the name on the card. -/
def observeCardName (modem : Modem) (ledger : Ledger) : Ledger :=
  match known modem.spn with
  | some name => ledger.adoptCardName name
  | none => ledger

/-- Observes everything the modem shows. -/
def observeAll (modem : Modem) (ledger : Ledger) : Ledger :=
  ledger.observeIccid modem
    |>.adoptHomeOperator modem
    |>.observeImsi modem
    |>.observeCardName modem
    |>.adoptHomeOperator modem

/-! ### Saving -/

/-- Saving what the cache holds changes nothing. -/
theorem save_of_eq {ledger : Ledger} {entry : Cache.Entry} {text : String}
    (h : ledger.entries entry = some text) : ledger.save entry text = ledger := by
  simp only [save]
  rw [if_pos h, ← h, Function.update_eq_self]

theorem persistImsi_of_clean {ledger : Ledger} (h : ledger.imsiDirty = false) :
    ledger.persistImsi = ledger := by
  simp only [persistImsi]
  rw [h]

theorem persistName_of_clean {ledger : Ledger} (h : ledger.nameDirty = false) :
    ledger.persistName = ledger := by
  simp only [persistName]
  rw [h]

theorem persistName_of_imsi_none {ledger : Ledger} (h : known ledger.imsi = none) :
    ledger.persistName = ledger := by
  simp only [persistName]
  rw [h]
  split
  · contradiction
  · rfl

theorem persistImsi_of_known {ledger : Ledger} {iccid imsi : String}
    (hdirty : ledger.imsiDirty = true) (hiccid : known ledger.iccid = some iccid)
    (himsi : known ledger.imsi = some imsi) :
    ledger.persistImsi = { ledger.save (.imsiOf iccid) imsi with imsiDirty := false } := by
  simp only [persistImsi]
  rw [hdirty, hiccid, himsi]

theorem persistName_of_known {ledger : Ledger} {imsi name : String}
    (hdirty : ledger.nameDirty = true) (himsi : known ledger.imsi = some imsi)
    (hname : known ledger.cachedName = some name) :
    ledger.persistName = { ledger.save (.nameOf imsi) name with nameDirty := false } := by
  simp only [persistName]
  rw [hdirty, himsi, hname]

/-- What the cache holds already is clean after an attempt to save it. -/
theorem persistImsi_of_held {ledger : Ledger} {iccid imsi : String}
    (hiccid : known ledger.iccid = some iccid) (himsi : known ledger.imsi = some imsi)
    (hheld : ledger.entries (.imsiOf iccid) = some imsi) :
    ledger.persistImsi = { ledger with imsiDirty := false } := by
  cases hdirty : ledger.imsiDirty with
  | false => rw [persistImsi_of_clean hdirty, ← hdirty]
  | true => rw [persistImsi_of_known hdirty hiccid himsi, save_of_eq hheld]

theorem persistName_of_held {ledger : Ledger} {imsi name : String}
    (himsi : known ledger.imsi = some imsi) (hname : known ledger.cachedName = some name)
    (hheld : ledger.entries (.nameOf imsi) = some name) :
    ledger.persistName = { ledger with nameDirty := false } := by
  cases hdirty : ledger.nameDirty with
  | false => rw [persistName_of_clean hdirty, ← hdirty]
  | true => rw [persistName_of_known hdirty himsi hname, save_of_eq hheld]

/-- A second attempt to save the name changes nothing. -/
theorem persistName_persistName (ledger : Ledger) :
    ledger.persistName.persistName = ledger.persistName := by
  generalize hl : ledger.persistName = l
  unfold persistName at hl
  split at hl
  · subst hl
    exact persistName_of_clean rfl
  case h_2 hnot =>
    subst hl
    unfold persistName
    split
    case h_1 imsi name hdirty himsi hname => exact (hnot imsi name hdirty himsi hname).elim
    case h_2 => rfl

/-- A dirty name is saved once, whether it was taken over before or is now. -/
theorem persistName_adoptName {ledger : Ledger} (h : ledger.nameDirty = true) (name : String) :
    (ledger.adoptName name).persistName = { ledger with cachedName := some name }.persistName := by
  simp only [adoptName]
  split
  case isTrue hname => rw [← hname]
  case isFalse => rw [persistName_persistName, ← h]

end Ledger

/-! ### The ledger of a run -/

namespace Run

/-- The ledger of a tracker at work. -/
def ledger (cfg : Config) (run : Run VolatileStore) : Ledger where
  iccid := run.identity.iccid
  imsi := run.identity.imsi
  cardName := run.cardName
  cachedName := run.cachedName
  imsiDirty := run.imsiDirty
  nameDirty := run.nameDirty
  entries := run.store.cached cfg
  committed := run.store.committed

variable {cfg : Config} {run : Run VolatileStore}

theorem ledger_refreshPublicName (run : Run VolatileStore) :
    run.refreshPublicName.ledger cfg = run.ledger cfg := by
  obtain ⟨_, _, hrun⟩ := refreshPublicName_touches run
  rw [hrun]
  rfl

theorem ledger_refreshFallback (modem : Modem) (run : Run VolatileStore) :
    (run.refreshFallback modem).ledger cfg = run.ledger cfg := by
  obtain ⟨_, _, _, hrun⟩ := refreshFallback_touches modem run
  rw [hrun]
  rfl

theorem ledger_forgetCard (run : Run VolatileStore) :
    run.forgetCard.ledger cfg =
      { run.ledger cfg with imsi := none, cardName := none, cachedName := none } := by
  unfold forgetCard
  rw [ledger_refreshPublicName]
  dsimp only
  split
  · rfl
  · rfl

/-- Looking an entry up tells what the ledger says of it, and changes nothing there. -/
theorem lookup_eq_of_available (cfg : Config) (h : run.store.available = true)
    (entry : Cache.Entry) :
    ∃ trail, run.lookup cfg entry =
      (((run.ledger cfg).entries entry).elim .missing .found,
        { run with store := { run.store with opened := run.store.opened + 1 }, trail }) := by
  obtain ⟨outcome, store, trail, hcache, hlookup⟩ := lookup_touches cfg entry run
  rw [Cache.lookup_of_available h] at hcache
  cases hcache
  exact ⟨trail, hlookup⟩

/-- Saving an entry succeeds, and the ledger saves it too. -/
theorem ledger_save (cfg : Config) (h : run.store.available = true) (entry : Cache.Entry)
    (text : String) :
    (run.save cfg entry text).1.succeeded = true ∧
      (run.save cfg entry text).2.ledger cfg = (run.ledger cfg).save entry text := by
  refine ⟨Cache.succeeded_save h text, ?_⟩
  have hentries : (Cache.save cfg entry text run.store).2.cached cfg =
      Function.update (run.store.cached cfg) entry (some text) := by
    funext other
    unfold VolatileStore.cached
    rw [Cache.get?_save h, Function.update_apply]
    simp only [Cache.Entry.address_inj, eq_comm]
  show { run.ledger cfg with
    entries := (Cache.save cfg entry text run.store).2.cached cfg
    committed := (Cache.save cfg entry text run.store).2.committed } = _
  rw [hentries, Cache.committed_save h]
  rfl

theorem ledger_persistImsi (h : run.store.available = true) :
    (run.persistImsi cfg).ledger cfg = (run.ledger cfg).persistImsi := by
  simp only [persistImsi]
  split
  case h_1 iccid imsi hdirty hiccid himsi =>
    obtain ⟨hsucceeded, hledger⟩ := ledger_save cfg h (.imsiOf iccid) imsi
    rw [Ledger.persistImsi_of_known hdirty hiccid himsi, ← hledger]
    dsimp only
    rw [if_pos hsucceeded]
    rfl
  case h_2 hnot =>
    simp only [Ledger.persistImsi]
    split
    case h_1 iccid imsi hdirty hiccid himsi => exact (hnot iccid imsi hdirty hiccid himsi).elim
    case h_2 => rfl

theorem ledger_persistName (h : run.store.available = true) :
    (run.persistName cfg).ledger cfg = (run.ledger cfg).persistName := by
  simp only [persistName]
  split
  case h_1 imsi name hdirty himsi hname =>
    obtain ⟨hsucceeded, hledger⟩ := ledger_save cfg h (.nameOf imsi) name
    rw [Ledger.persistName_of_known hdirty himsi hname, ← hledger]
    dsimp only
    rw [if_pos hsucceeded]
    rfl
  case h_2 hnot =>
    simp only [Ledger.persistName]
    split
    case h_1 imsi name hdirty himsi hname => exact (hnot imsi name hdirty himsi hname).elim
    case h_2 => rfl

/-- An attempt to save what the cache holds already writes nothing. -/
theorem ledger_persistImsi_of_held (h : run.store.available = true) {iccid imsi : String}
    (hiccid : known run.identity.iccid = some iccid) (himsi : known run.identity.imsi = some imsi)
    (hheld : (run.ledger cfg).entries (.imsiOf iccid) = some imsi) :
    (run.persistImsi cfg).ledger cfg = { run.ledger cfg with imsiDirty := false } :=
  (ledger_persistImsi h).trans (Ledger.persistImsi_of_held hiccid himsi hheld)

theorem ledger_persistName_of_held (h : run.store.available = true) {imsi name : String}
    (himsi : known run.identity.imsi = some imsi) (hname : known run.cachedName = some name)
    (hheld : (run.ledger cfg).entries (.nameOf imsi) = some name) :
    (run.persistName cfg).ledger cfg = { run.ledger cfg with nameDirty := false } :=
  (ledger_persistName h).trans (Ledger.persistName_of_held himsi hname hheld)

/-- After a failure the subscription is tried again first, and then its name. -/
theorem ledger_retryWrites (h : run.store.available = true) :
    (run.retryWrites cfg).ledger cfg =
      if run.writeFailed then (run.ledger cfg).persistImsi.persistName else run.ledger cfg := by
  simp only [retryWrites]
  split
  case isTrue =>
    have hpersist : (({ run with writeFailed := false }.note .retrying).persistImsi cfg).ledger cfg =
        (run.ledger cfg).persistImsi := by
      rw [ledger_persistImsi]
      · rfl
      · exact h
    have hstored : Progress cfg none _
        (({ run with writeFailed := false }.note .retrying).persistImsi cfg) := progress_persistImsi _
    rw [ledger_persistName (hstored.uses.available h), hpersist]
  case isFalse => rfl

/-- Trying writes again that are not pending has no effect on the cache. -/
theorem ledger_retryWrites_of_clean (h : run.store.available = true)
    (hclean : run.hasPendingWrites = false) :
    (run.retryWrites cfg).ledger cfg = run.ledger cfg := by
  obtain ⟨hname, himsi⟩ := Bool.or_eq_false_iff.1 hclean
  have himsi' : (run.ledger cfg).persistImsi = run.ledger cfg := Ledger.persistImsi_of_clean himsi
  have hname' : (run.ledger cfg).persistName = run.ledger cfg := Ledger.persistName_of_clean hname
  rw [ledger_retryWrites h, himsi', hname', ite_self]

theorem ledger_adoptName (h : run.store.available = true) (name : String) :
    (run.adoptName cfg name).ledger cfg = (run.ledger cfg).adoptName name := by
  simp only [adoptName]
  split
  case isTrue hname => exact (if_pos hname).symm
  case isFalse hname =>
    rw [ledger_refreshPublicName, ledger_persistName]
    · exact (if_neg hname).symm
    · exact h

/-- The two attempts to save the card's name come down to one. -/
theorem ledger_adoptCardName (h : run.store.available = true) (name : String) :
    (run.adoptCardName cfg name).ledger cfg = (run.ledger cfg).adoptCardName name := by
  simp only [adoptCardName]
  split
  case isTrue hname => exact (if_pos hname).symm
  case isFalse hname =>
    have hadopt : Progress cfg none _ (({ run.note (.cardNameAdopted name) with
        cardName := some name, nameDirty := true } : Run VolatileStore).adoptName cfg name) :=
      progress_adoptName name _
    rw [ledger_refreshPublicName, ledger_persistName (hadopt.uses.available h), ledger_adoptName,
      Ledger.persistName_adoptName]
    · exact (if_neg hname).symm
    · rfl
    · exact h

theorem ledger_adoptHomeOperator (h : run.store.available = true) (modem : Modem) :
    (run.adoptHomeOperator cfg modem).ledger cfg = (run.ledger cfg).adoptHomeOperator modem := by
  simp only [adoptHomeOperator, Ledger.adoptHomeOperator]
  cases modem.homeOperator? with
  | none => rfl
  | some name =>
    dsimp only
    split
    case isTrue hcard =>
      rw [ledger_adoptName]
      · exact (if_pos hcard).symm
      · exact h
    case isFalse hcard => exact (if_neg hcard).symm

/-- Recalling the subscription never writes: what has just been found need not be saved. -/
theorem ledger_recallImsi (h : run.store.available = true) {iccid : String}
    (hiccid : known run.identity.iccid = some iccid) (modem : Modem) :
    (run.recallImsi cfg modem iccid).ledger cfg = (run.ledger cfg).recallImsi iccid := by
  obtain ⟨trail, hlookup⟩ := lookup_eq_of_available cfg h (.imsiOf iccid)
  simp only [recallImsi, Ledger.recallImsi]
  rw [hlookup]
  cases hentry : (run.ledger cfg).entries (.imsiOf iccid) with
  | none => rfl
  | some imsi =>
    dsimp only [Option.elim]
    by_cases hempty : imsi = ""
    · subst hempty
      rw [if_pos (.inl rfl), known_empty]
      rfl
    · rw [known_some hempty]
      by_cases himsi : run.identity.imsi = some imsi
      · rw [if_pos (.inr himsi)]
        exact (if_pos himsi).symm
      · rw [if_neg (not_or.2 ⟨hempty, himsi⟩)]
        refine Eq.trans ?_ (if_neg himsi).symm
        show (refreshFallback modem _).ledger cfg = _
        rw [ledger_refreshFallback]
        -- the entry is dirty if another subscription was tracked, and is saved then
        split
        · exact ledger_persistImsi_of_held h hiccid (known_some hempty) hentry
        · exact ledger_persistImsi_of_held h hiccid (known_some hempty) hentry

/-- Recalling the name writes only to put the card's own name in the place of another one. -/
theorem ledger_recallName (h : run.store.available = true) :
    (run.recallName cfg).ledger cfg = (run.ledger cfg).recallName := by
  simp only [recallName, Ledger.recallName]
  show Run.ledger cfg (match known run.identity.imsi with | none => _ | some imsi => _) =
    match known run.identity.imsi with | none => _ | some imsi => _
  cases himsi : known run.identity.imsi with
  | none => rfl
  | some imsi =>
    obtain ⟨trail, hlookup⟩ := lookup_eq_of_available cfg h (.nameOf imsi)
    dsimp only
    rw [hlookup]
    cases hentry : (run.ledger cfg).entries (.nameOf imsi) with
    | none => rfl
    | some name =>
      dsimp only [Option.elim]
      by_cases hempty : name = ""
      · subst hempty
        rw [if_pos (.inl rfl), known_empty]
        rfl
      · rw [known_some hempty]
        by_cases hname : run.cachedName = some name
        · rw [if_pos (.inr hname)]
          exact (if_pos hname).symm
        · rw [if_neg (not_or.2 ⟨hempty, hname⟩)]
          refine Eq.trans ?_ (if_neg hname).symm
          by_cases hcard : known run.cardName = none
          · rw [if_neg (not_not_intro hcard)]
            refine Eq.trans ?_ (if_pos hcard).symm
            rw [ledger_refreshPublicName]
            split
            · exact ledger_persistName_of_held h himsi (known_some hempty) hentry
            · exact ledger_persistName_of_held h himsi (known_some hempty) hentry
          · rw [if_pos hcard]
            refine Eq.trans ?_ (if_neg hcard).symm
            rw [ledger_persistName]
            · rfl
            · exact h

/-! ### Observing the modem -/

theorem ledger_observeIccid (h : run.store.available = true) (modem : Modem) :
    (run.observeIccid cfg modem).ledger cfg = (run.ledger cfg).observeIccid modem := by
  simp only [observeIccid, Ledger.observeIccid]
  by_cases hsame : run.identity.iccid = known modem.iccid
  · rw [if_pos hsame]
    exact (if_pos hsame).symm
  · rw [if_neg hsame]
    refine Eq.trans ?_ (if_neg hsame).symm
    cases hiccid : known modem.iccid with
    | none => exact ledger_forgetCard _
    | some iccid =>
      have hknown : known (some iccid) = some iccid := known_some (known_eq_some_iff.1 hiccid).2
      have hrecall : Progress cfg none _ (recallImsi cfg modem iccid
          ({ run with identity.iccid := some iccid }.queue .iccid)) :=
        progress_recallImsi modem (known_eq_some_iff.1 hiccid).2 _
      show ((recallImsi cfg modem iccid _).recallName cfg).ledger cfg = _
      rw [ledger_recallName (hrecall.uses.available h), ledger_recallImsi]
      · rfl
      · exact h
      · exact hknown

theorem ledger_adoptImsi (h : run.store.available = true) (imsi : String) :
    (run.adoptImsi cfg imsi).ledger cfg = (run.ledger cfg).adoptImsi imsi := by
  simp only [adoptImsi]
  split
  case isTrue hsame => exact (if_pos hsame).symm
  case isFalse hnew =>
    have hpersist : Progress cfg none _ (({ run.note (.imsiAdopted imsi) with
        identity.imsi := some imsi, imsiDirty := true } : Run VolatileStore).persistImsi cfg) :=
      progress_persistImsi _
    have hstored := hpersist.uses.available h
    show ledger cfg (persistName cfg (recallName cfg (persistImsi cfg _))) = _
    rw [ledger_persistName, ledger_recallName hstored, ledger_persistImsi]
    · exact (if_neg hnew).symm
    · exact h
    · exact (@progress_recallName _ _ cfg none _).uses.available hstored

theorem ledger_observeImsi (h : run.store.available = true) (modem : Modem) :
    (run.observeImsi cfg modem).ledger cfg = (run.ledger cfg).observeImsi modem := by
  simp only [observeImsi, Ledger.observeImsi]
  rw [ledger_refreshFallback]
  cases known modem.imsi with
  | none => rfl
  | some imsi => exact ledger_adoptImsi h imsi

theorem ledger_observeCardName (h : run.store.available = true) (modem : Modem) :
    (run.observeCardName cfg modem).ledger cfg = (run.ledger cfg).observeCardName modem := by
  simp only [observeCardName, Ledger.observeCardName]
  cases known modem.spn with
  | none => rfl
  | some name => exact ledger_adoptCardName h name

/-- Without a network there is no home operator. -/
theorem ledger_observeNetwork (h : run.store.available = true) (modem : Modem) :
    (run.observeNetwork cfg modem).ledger cfg = (run.ledger cfg).adoptHomeOperator modem := by
  unfold observeNetwork
  split
  case isTrue =>
    dsimp only
    split
    · exact ledger_adoptHomeOperator h modem
    · rw [ledger_adoptHomeOperator]
      · rfl
      · exact h
  case isFalse hnetwork =>
    have hnone : modem.homeOperator? = none := by
      refine Modem.homeOperator?_of_network_none ?_
      rwa [Bool.not_eq_true, Option.isSome_eq_false_iff, Option.isNone_iff_eq_none] at hnetwork
    simp only [Ledger.adoptHomeOperator]
    rw [hnone]
    split
    · rfl
    · rfl

/-- Observing the modem is, for the cache, observing it with the ledger. -/
theorem ledger_observeAll (h : run.store.available = true) (modem : Modem) :
    (run.observeAll cfg modem).ledger cfg = (run.ledger cfg).observeAll modem := by
  have hiccid : Progress cfg none _ (run.observeIccid cfg modem) := progress_observeIccid modem _
  have hnetwork : Progress cfg none _ ((run.observeIccid cfg modem).observeNetwork cfg modem) :=
    progress_observeNetwork modem _
  have himsi : Progress cfg none _ (((run.observeIccid cfg modem).observeNetwork cfg
      modem).observeImsi cfg modem) := progress_observeImsi modem _
  have hcard : Progress cfg none _ ((((run.observeIccid cfg modem).observeNetwork cfg
      modem).observeImsi cfg modem).observeCardName cfg modem) := progress_observeCardName modem _
  have h₁ := hiccid.uses.available h
  have h₂ := hnetwork.uses.available h₁
  have h₃ := himsi.uses.available h₂
  have h₄ := hcard.uses.available h₃
  simp only [observeAll, Ledger.observeAll]
  rw [ledger_adoptHomeOperator h₄, ledger_observeCardName h₃, ledger_observeImsi h₂,
    ledger_observeNetwork h₁, ledger_observeIccid h]

/-- The ledger a tracker begins with is blank but for what the cache holds. -/
theorem ledger_start {store : VolatileStore} (h : store.available = true) (modem : Modem) :
    (start cfg modem store).ledger cfg =
      Ledger.observeAll modem { entries := store.cached cfg, committed := store.committed } := by
  have hrun : (start cfg modem store).ledger cfg =
      (({ identity := { path := modem.path }, store } : Run VolatileStore).observeAll cfg
        modem).ledger cfg := by
    simp only [start]
    split
    · rfl
    · rfl
  rw [hrun, ledger_observeAll]
  · rfl
  · exact h

end Run

end SimIdentity
