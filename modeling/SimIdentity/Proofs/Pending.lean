import SimIdentity.Proofs.Coherence
import SimIdentity.Proofs.Failure
import SimIdentity.Proofs.Ledger

/-!
# Pending writes

The subscription is saved under the serial number, and the name under the subscription. What becomes
known before the key it is saved under has to wait, and stays dirty until the key is there.

Mostly it is saved then. The exception are keys that come from the cache or together with it: if a
serial number comes up, and the cache tells nothing for it that is not known already, then what was
waiting for it is not saved. Neither is a name that was waiting for the subscription, if the cache
tells that subscription for a new serial number, and no other name for it. `Overlooks` says so, and
`always_tidy_iff` that nothing else is ever pending without need: over a memory that can be reached,
a run is tidy up to the first call that overlooks something.
-/

namespace SimIdentity

namespace Ledger

variable {ledger after : Ledger} {modem : Modem} {iccid imsi name : String}

/-- The subscription is dirty exactly as long as there is no serial number to save it under. -/
def ImsiWaits (ledger : Ledger) : Prop :=
  known ledger.imsi ≠ none → (ledger.imsiDirty = true ↔ known ledger.iccid = none)

/-- The name is dirty exactly as long as there is no subscription to save it under. -/
def NameWaits (ledger : Ledger) : Prop :=
  known ledger.cachedName ≠ none → (ledger.nameDirty = true ↔ known ledger.imsi = none)

/-! ### Work on names -/

/-- The ledgers that come about by learning names, and saving them. -/
inductive NameSteps (ledger : Ledger) : Ledger → Prop where
  /-- Nothing was done. -/
  | refl : NameSteps ledger ledger
  /-- At last another name was learned, of the card or for the cache. -/
  | learn {after : Ledger} (cardName cachedName : Option String) (nameDirty : Bool) :
      NameSteps ledger after → NameSteps ledger { after with cardName, cachedName, nameDirty }
  /-- At last the name was to be saved. -/
  | persistName {after : Ledger} : NameSteps ledger after → NameSteps ledger after.persistName

namespace NameSteps

theorem adoptName (h : NameSteps ledger after) (name : String) :
    NameSteps ledger (after.adoptName name) := by
  simp only [Ledger.adoptName]
  split
  · exact h
  · exact (h.learn after.cardName (some name) true).persistName

theorem adoptHomeOperator (h : NameSteps ledger after) (modem : Modem) :
    NameSteps ledger (after.adoptHomeOperator modem) := by
  simp only [Ledger.adoptHomeOperator]
  cases modem.homeOperator? with
  | none => exact h
  | some name =>
    dsimp only
    split
    · exact h.adoptName name
    · exact h

theorem observeCardName (h : NameSteps ledger after) (modem : Modem) :
    NameSteps ledger (after.observeCardName modem) := by
  simp only [Ledger.observeCardName]
  cases known modem.spn with
  | none => exact h
  | some name =>
    simp only [adoptCardName]
    split
    · exact h
    · exact (h.learn (some name) (some name) true).persistName

theorem recallName (h : NameSteps ledger after) : NameSteps ledger after.recallName := by
  simp only [Ledger.recallName]
  cases known after.imsi with
  | none => exact h
  | some imsi =>
    dsimp only
    cases known (after.entries (.nameOf imsi)) with
    | none => exact h
    | some name =>
      dsimp only
      split
      · exact h
      · split
        · exact h.learn after.cardName (some name) false
        · exact (h.learn after.cardName after.cachedName true).persistName

end NameSteps

/-- At most the names were changed, and what the cache holds. -/
def Renames (ledger after : Ledger) : Prop :=
  ∃ cardName cachedName nameDirty entries committed, after =
    { ledger with cardName, cachedName, nameDirty, entries, committed }

theorem NameSteps.renames (h : NameSteps ledger after) : Renames ledger after := by
  induction h with
  | refl => exact ⟨_, _, _, _, _, rfl⟩
  | learn cardName cachedName nameDirty _ ih =>
    obtain ⟨_, _, _, _, _, rfl⟩ := ih
    exact ⟨_, _, _, _, _, rfl⟩
  | persistName _ ih =>
    obtain ⟨_, _, _, _, _, rfl⟩ := ih
    simp only [Ledger.persistName]
    split
    · exact ⟨_, _, _, _, _, rfl⟩
    · exact ⟨_, _, _, _, _, rfl⟩

namespace Renames

theorem refl (ledger : Ledger) : Renames ledger ledger := NameSteps.refl.renames

theorem trans {last : Ledger} (h : Renames ledger after) (h' : Renames after last) :
    Renames ledger last := by
  obtain ⟨_, _, _, _, _, rfl⟩ := h
  obtain ⟨_, _, _, _, _, rfl⟩ := h'
  exact ⟨_, _, _, _, _, rfl⟩

theorem imsi_eq (h : Renames ledger after) : after.imsi = ledger.imsi := by
  obtain ⟨_, _, _, _, _, rfl⟩ := h
  rfl

theorem iccid_eq (h : Renames ledger after) : after.iccid = ledger.iccid := by
  obtain ⟨_, _, _, _, _, rfl⟩ := h
  rfl

theorem imsiDirty_eq (h : Renames ledger after) : after.imsiDirty = ledger.imsiDirty := by
  obtain ⟨_, _, _, _, _, rfl⟩ := h
  rfl

/-- Names have nothing to do with whether the subscription waits. -/
theorem imsiWaits (h : Renames ledger after) (hwaits : ledger.ImsiWaits) : after.ImsiWaits := by
  obtain ⟨_, _, _, _, _, rfl⟩ := h
  exact hwaits

theorem persistName (h : Renames ledger after) : Renames ledger after.persistName :=
  h.trans NameSteps.refl.persistName.renames

theorem adoptHomeOperator (h : Renames ledger after) (modem : Modem) :
    Renames ledger (after.adoptHomeOperator modem) :=
  h.trans (NameSteps.refl.adoptHomeOperator modem).renames

theorem observeCardName (h : Renames ledger after) (modem : Modem) :
    Renames ledger (after.observeCardName modem) :=
  h.trans (NameSteps.refl.observeCardName modem).renames

theorem recallName (h : Renames ledger after) : Renames ledger after.recallName :=
  h.trans NameSteps.refl.recallName.renames

end Renames

/-! ### Saving -/

theorem persistImsi_touches (ledger : Ledger) :
    ∃ imsiDirty entries committed, ledger.persistImsi =
      { ledger with imsiDirty, entries, committed } := by
  simp only [persistImsi]
  split
  · exact ⟨_, _, _, rfl⟩
  · exact ⟨_, _, _, rfl⟩

/-- A dirty subscription that could not be saved waits. -/
theorem imsiWaits_persistImsi (h : ledger.imsiDirty = true) : ledger.persistImsi.ImsiWaits := by
  simp only [persistImsi]
  split
  case h_1 iccid imsi _ hiccid _ =>
    have hknown : known ledger.iccid ≠ none := Option.ne_none_iff_exists'.2 ⟨iccid, hiccid⟩
    exact fun _ => iff_of_false Bool.false_ne_true hknown
  case h_2 hnot =>
    intro himsi
    refine iff_of_true h ?_
    obtain ⟨imsi, himsi⟩ := Option.ne_none_iff_exists'.1 himsi
    refine Option.eq_none_iff_forall_ne_some.2 fun iccid hiccid => ?_
    exact hnot iccid imsi h hiccid himsi

/-- A dirty name that could not be saved waits. -/
theorem nameWaits_persistName (h : ledger.nameDirty = true) : ledger.persistName.NameWaits := by
  simp only [persistName]
  split
  case h_1 imsi name _ himsi _ =>
    have hknown : known ledger.imsi ≠ none := Option.ne_none_iff_exists'.2 ⟨imsi, himsi⟩
    exact fun _ => iff_of_false Bool.false_ne_true hknown
  case h_2 hnot =>
    intro hname
    refine iff_of_true h ?_
    obtain ⟨name, hname⟩ := Option.ne_none_iff_exists'.1 hname
    refine Option.eq_none_iff_forall_ne_some.2 fun imsi himsi => ?_
    exact hnot imsi name h himsi hname

/-- With a subscription, an attempt to save the name leaves nothing waiting, dirty or not. -/
theorem nameWaits_persistName_of_imsi (h : known ledger.imsi ≠ none) :
    ledger.persistName.NameWaits := by
  cases hdirty : ledger.nameDirty with
  | true => exact nameWaits_persistName hdirty
  | false =>
    rw [persistName_of_clean hdirty]
    exact fun _ => iff_of_false (by rw [hdirty]; exact Bool.false_ne_true) h

/-! ### Taking over names -/

theorem nameWaits_adoptName (h : ledger.cachedName = some name → ledger.NameWaits) :
    (ledger.adoptName name).NameWaits := by
  simp only [adoptName]
  split
  case isTrue hname => exact h hname
  case isFalse => exact nameWaits_persistName rfl

/-- The operator's name is the one that is known already, or the card has a name of its own. -/
def EchoesOperator (modem : Modem) (ledger : Ledger) : Prop :=
  ∀ operator, modem.homeOperator? = some operator → known ledger.cardName = none →
    ledger.cachedName = some operator

theorem adoptHomeOperator_of_echo (h : ledger.EchoesOperator modem) :
    ledger.adoptHomeOperator modem = ledger := by
  simp only [adoptHomeOperator]
  cases hoperator : modem.homeOperator? with
  | none => rfl
  | some operator =>
    dsimp only
    split
    case isTrue hcard => exact if_pos (h operator hoperator hcard)
    case isFalse => rfl

theorem nameWaits_adoptHomeOperator (h : ledger.EchoesOperator modem → ledger.NameWaits) :
    (ledger.adoptHomeOperator modem).NameWaits := by
  by_cases hecho : ledger.EchoesOperator modem
  · rw [adoptHomeOperator_of_echo hecho]
    exact h hecho
  · simp only [EchoesOperator, not_forall] at hecho
    obtain ⟨operator, hoperator, hcard, hnew⟩ := hecho
    simp only [adoptHomeOperator]
    rw [hoperator]
    dsimp only
    rw [if_pos hcard]
    exact nameWaits_adoptName fun hname => absurd hname hnew

/-- The name on the card is the one that is known already, if there is one. -/
def EchoesCardName (modem : Modem) (ledger : Ledger) : Prop :=
  ∀ reported, known modem.spn = some reported → ledger.cardName = some reported

theorem observeCardName_of_echo (h : ledger.EchoesCardName modem) :
    ledger.observeCardName modem = ledger := by
  simp only [observeCardName]
  cases hreported : known modem.spn with
  | none => rfl
  | some name => exact if_pos (h name hreported)

theorem nameWaits_observeCardName (h : ledger.EchoesCardName modem → ledger.NameWaits) :
    (ledger.observeCardName modem).NameWaits := by
  by_cases hecho : ledger.EchoesCardName modem
  · rw [observeCardName_of_echo hecho]
    exact h hecho
  · simp only [EchoesCardName, not_forall] at hecho
    obtain ⟨name, hreported, hnew⟩ := hecho
    simp only [observeCardName, adoptCardName]
    rw [hreported]
    dsimp only
    rw [if_neg hnew]
    exact nameWaits_persistName rfl

/-- The cache tells no name for the subscription but the one that is known. -/
def EchoesName (ledger : Ledger) : Prop :=
  ∀ imsi told, known ledger.imsi = some imsi → known (ledger.entries (.nameOf imsi)) = some told →
    ledger.cachedName = some told

theorem recallName_of_echo (h : ledger.EchoesName) : ledger.recallName = ledger := by
  simp only [recallName]
  cases himsi : known ledger.imsi with
  | none => rfl
  | some imsi =>
    dsimp only
    cases htold : known (ledger.entries (.nameOf imsi)) with
    | none => rfl
    | some told => exact if_pos (h imsi told himsi htold)

/-- Otherwise the two names are made to agree: the one that the cache tells takes the place of the
one known, unless that is the name on the card. -/
theorem recallName_cases (ledger : Ledger) :
    (ledger.EchoesName ∧ ledger.recallName = ledger) ∨
      ∃ imsi told, known ledger.imsi = some imsi ∧
        known (ledger.entries (.nameOf imsi)) = some told ∧ ledger.cachedName ≠ some told ∧
        ledger.recallName =
          if known ledger.cardName = none then
            { ledger with cachedName := some told, nameDirty := false }
          else { ledger with nameDirty := true }.persistName := by
  by_cases hecho : ledger.EchoesName
  · exact .inl ⟨hecho, recallName_of_echo hecho⟩
  · simp only [EchoesName, not_forall] at hecho
    obtain ⟨imsi, told, himsi, htold, hnew⟩ := hecho
    refine .inr ⟨imsi, told, himsi, htold, hnew, ?_⟩
    simp only [recallName]
    rw [himsi]
    dsimp only
    rw [htold]
    exact if_neg hnew

theorem nameWaits_recallName (h : ledger.EchoesName → ledger.NameWaits) :
    ledger.recallName.NameWaits := by
  rcases recallName_cases ledger with ⟨hecho, hrecall⟩ | ⟨imsi, told, himsi, -, -, hrecall⟩
  · rw [hrecall]
    exact h hecho
  · rw [hrecall]
    split
    · have hknown : known ledger.imsi ≠ none := Option.ne_none_iff_exists'.2 ⟨imsi, himsi⟩
      exact fun _ => iff_of_false Bool.false_ne_true hknown
    · exact nameWaits_persistName rfl

/-! ### Taking over a subscription -/

/-- The subscription that is reported is the one that is tracked, if there is one. -/
def EchoesImsi (modem : Modem) (ledger : Ledger) : Prop :=
  ∀ reported, known modem.imsi = some reported → ledger.imsi = some reported

theorem observeImsi_of_echo (h : ledger.EchoesImsi modem) : ledger.observeImsi modem = ledger := by
  simp only [observeImsi]
  cases hreported : known modem.imsi with
  | none => rfl
  | some imsi => exact if_pos (h imsi hreported)

/-- Any other subscription is saved, and the name with it, as far as there are keys for it. -/
theorem waits_adoptImsi (himsi : imsi ≠ "") (hnew : ledger.imsi ≠ some imsi) :
    (ledger.adoptImsi imsi).ImsiWaits ∧ (ledger.adoptImsi imsi).NameWaits := by
  simp only [adoptImsi]
  rw [if_neg hnew]
  have hwaits : { ledger with imsi := some imsi, imsiDirty := true }.persistImsi.ImsiWaits :=
    imsiWaits_persistImsi rfl
  have hknown :
      known { ledger with imsi := some imsi, imsiDirty := true }.persistImsi.imsi ≠ none := by
    obtain ⟨_, _, _, hpersist⟩ :=
      persistImsi_touches { ledger with imsi := some imsi, imsiDirty := true }
    rw [hpersist]
    exact Option.ne_none_iff_exists'.2 ⟨imsi, known_some himsi⟩
  generalize { ledger with imsi := some imsi, imsiDirty := true }.persistImsi = saved
    at hwaits hknown ⊢
  have hrecall : Renames saved saved.recallName := (Renames.refl saved).recallName
  refine ⟨hrecall.persistName.imsiWaits hwaits, nameWaits_persistName_of_imsi ?_⟩
  rw [hrecall.imsi_eq]
  exact hknown

theorem waits_observeImsi_of_not_echo (h : ¬ ledger.EchoesImsi modem) :
    (ledger.observeImsi modem).ImsiWaits ∧ (ledger.observeImsi modem).NameWaits := by
  simp only [EchoesImsi, not_forall] at h
  obtain ⟨imsi, hreported, hnew⟩ := h
  simp only [observeImsi]
  rw [hreported]
  exact waits_adoptImsi (known_eq_some_iff.1 hreported).2 hnew

theorem imsiWaits_observeImsi (h : ledger.EchoesImsi modem → ledger.ImsiWaits) :
    (ledger.observeImsi modem).ImsiWaits := by
  by_cases hecho : ledger.EchoesImsi modem
  · rw [observeImsi_of_echo hecho]
    exact h hecho
  · exact (waits_observeImsi_of_not_echo hecho).1

theorem nameWaits_observeImsi (h : ledger.EchoesImsi modem → ledger.NameWaits) :
    (ledger.observeImsi modem).NameWaits := by
  by_cases hecho : ledger.EchoesImsi modem
  · rw [observeImsi_of_echo hecho]
    exact h hecho
  · exact (waits_observeImsi_of_not_echo hecho).2

/-! ### A new serial number -/

/-- A subscription is recalled if the cache tells another one than the one tracked. -/
theorem recallImsi_cases (iccid : String) (ledger : Ledger) :
    ((∀ told, known (ledger.entries (.imsiOf iccid)) = some told → ledger.imsi = some told) ∧
        ledger.recallImsi iccid = ledger) ∨
      ∃ told, known (ledger.entries (.imsiOf iccid)) = some told ∧ ledger.imsi ≠ some told ∧
        ledger.recallImsi iccid = { ledger with imsi := some told, imsiDirty := false } := by
  simp only [recallImsi]
  cases known (ledger.entries (.imsiOf iccid)) with
  | none => exact .inl ⟨fun told h => absurd h.symm (Option.some_ne_none told), rfl⟩
  | some told =>
    by_cases hsame : ledger.imsi = some told
    · exact .inl ⟨fun other h => hsame.trans h, if_pos hsame⟩
    · exact .inr ⟨told, rfl, hsame, if_neg hsame⟩

/-- A new serial number may bring a subscription with it, and then perhaps a name. -/
theorem observeIccid_of_new (hshown : known modem.iccid = some iccid)
    (hnew : ledger.iccid ≠ some iccid) :
    ((∀ told, known (ledger.entries (.imsiOf iccid)) = some told → ledger.imsi = some told) ∧
        ledger.observeIccid modem = { ledger with iccid := some iccid }.recallName) ∨
      ∃ told, known (ledger.entries (.imsiOf iccid)) = some told ∧ ledger.imsi ≠ some told ∧
        ledger.observeIccid modem = recallName
          { ledger with iccid := some iccid, imsi := some told, imsiDirty := false } := by
  have hobserve : ledger.observeIccid modem =
      ({ ledger with iccid := some iccid }.recallImsi iccid).recallName := by
    simp only [observeIccid]
    rw [hshown, if_neg hnew]
  rcases recallImsi_cases iccid { ledger with iccid := some iccid } with
    ⟨hecho, hrecall⟩ | ⟨told, htold, hother, hrecall⟩
  · exact .inl ⟨hecho, hobserve.trans (congrArg recallName hrecall)⟩
  · exact .inr ⟨told, htold, hother, hobserve.trans (congrArg recallName hrecall)⟩

/-- A serial number comes up that a subscription was waiting for, and the cache tells no other one
for it. -/
structure MissesImsi (modem : Modem) (iccid imsi : String) (ledger : Ledger) : Prop where
  /-- The serial number is shown. -/
  shown : known modem.iccid = some iccid
  /-- There was none. -/
  missing : known ledger.iccid = none
  /-- The subscription was waiting for one. -/
  waiting : known ledger.imsi = some imsi
  /-- The cache tells nothing new. -/
  echo : ∀ told, known (ledger.entries (.imsiOf iccid)) = some told → told = imsi

/-- A serial number comes up for which the cache tells a subscription that a name was waiting for,
and no other name for that. -/
structure MissesName (modem : Modem) (iccid imsi name : String) (ledger : Ledger) : Prop where
  /-- The serial number is shown. -/
  shown : known modem.iccid = some iccid
  /-- It is a new one. -/
  new : ledger.iccid ≠ some iccid
  /-- There was no subscription. -/
  missing : known ledger.imsi = none
  /-- The name was waiting for one. -/
  waiting : known ledger.cachedName = some name
  /-- The cache tells one. -/
  recalled : known (ledger.entries (.imsiOf iccid)) = some imsi
  /-- It tells no other name for it. -/
  echo : ∀ told, known (ledger.entries (.nameOf imsi)) = some told → told = name

/-- If nothing is missed, a subscription only waits for a serial number after one was looked for. -/
theorem imsiWaits_observeIccid (h : ledger.ImsiWaits)
    (hseen : ∀ iccid imsi, ¬ MissesImsi modem iccid imsi ledger) :
    (ledger.observeIccid modem).ImsiWaits := by
  by_cases hsame : ledger.iccid = known modem.iccid
  · rw [show ledger.observeIccid modem = ledger from if_pos hsame]
    exact h
  cases hshown : known modem.iccid with
  | none =>
    simp only [observeIccid]
    rw [if_neg hsame, hshown]
    exact fun himsi => absurd rfl himsi
  | some iccid =>
    have hiccid : known (some iccid) ≠ none :=
      Option.ne_none_iff_exists'.2 ⟨iccid, known_some (known_eq_some_iff.1 hshown).2⟩
    rcases observeIccid_of_new hshown (by rwa [hshown] at hsame) with
      ⟨hecho, hobserve⟩ | ⟨told, -, -, hobserve⟩
    · rw [hobserve]
      refine (Renames.refl _).recallName.imsiWaits fun himsi => ?_
      refine iff_of_false (fun hdirty => ?_) hiccid
      obtain ⟨imsi, himsi'⟩ := Option.ne_none_iff_exists'.1 himsi
      refine hseen iccid imsi ⟨hshown, (h himsi).1 hdirty, himsi', fun told htold => ?_⟩
      have hsame : ledger.imsi = some told := hecho told htold
      rw [(known_eq_some_iff.1 himsi').1] at hsame
      exact (Option.some.inj hsame).symm
    · rw [hobserve]
      exact (Renames.refl _).recallName.imsiWaits fun _ => iff_of_false Bool.false_ne_true hiccid

/-- If nothing is missed, a name only waits for a subscription after a serial number was looked
for. -/
theorem nameWaits_observeIccid (h : ledger.NameWaits)
    (hseen : ∀ iccid imsi name, ¬ MissesName modem iccid imsi name ledger) :
    (ledger.observeIccid modem).NameWaits := by
  by_cases hsame : ledger.iccid = known modem.iccid
  · rw [show ledger.observeIccid modem = ledger from if_pos hsame]
    exact h
  cases hshown : known modem.iccid with
  | none =>
    simp only [observeIccid]
    rw [if_neg hsame, hshown]
    exact fun hname => absurd rfl hname
  | some iccid =>
    have hnew : ledger.iccid ≠ some iccid := by rwa [hshown] at hsame
    rcases observeIccid_of_new hshown hnew with ⟨-, hobserve⟩ | ⟨imsi, htold, -, hobserve⟩
    · rw [hobserve]
      exact nameWaits_recallName fun _ => h
    · have himsi : known (some imsi) = some imsi := known_some (known_eq_some_iff.1 htold).2
      rw [hobserve]
      have hknown : known (some imsi) ≠ none := Option.ne_none_iff_exists'.2 ⟨imsi, himsi⟩
      refine nameWaits_recallName fun hecho hname => iff_of_false (fun hdirty => ?_) hknown
      obtain ⟨name, hname'⟩ := Option.ne_none_iff_exists'.1 hname
      refine hseen iccid imsi name ⟨hshown, hnew, (h hname).1 hdirty, hname', htold, ?_⟩
      intro told htold'
      have hsame : ledger.cachedName = some told := hecho imsi told himsi htold'
      rw [(known_eq_some_iff.1 hname').1] at hsame
      exact (Option.some.inj hsame).symm

/-- What is missed stays as it is, but for the names. -/
theorem MissesImsi.renames_observeIccid (h : MissesImsi modem iccid imsi ledger) :
    Renames { ledger with iccid := some iccid } (ledger.observeIccid modem) := by
  have hnew : ledger.iccid ≠ some iccid := fun hsame => by
    have hmissing := h.missing
    rw [hsame, known_some (known_eq_some_iff.1 h.shown).2] at hmissing
    cases hmissing
  rcases observeIccid_of_new h.shown hnew with ⟨-, hobserve⟩ | ⟨told, htold, hother, -⟩
  · rw [hobserve]
    exact (Renames.refl _).recallName
  · have himsi : ledger.imsi = some imsi := (known_eq_some_iff.1 h.waiting).1
    exact absurd (himsi.trans (congrArg some (h.echo told htold).symm)) hother

theorem MissesName.observeIccid_eq (h : MissesName modem iccid imsi name ledger) :
    ledger.observeIccid modem =
      { ledger with iccid := some iccid, imsi := some imsi, imsiDirty := false } := by
  have himsi : known (some imsi) = some imsi := known_some (known_eq_some_iff.1 h.recalled).2
  rcases observeIccid_of_new h.shown h.new with ⟨hecho, -⟩ | ⟨told, htold, -, hobserve⟩
  · have hmissing := h.missing
    rw [hecho imsi h.recalled, himsi] at hmissing
    cases hmissing
  · obtain rfl : imsi = told := Option.some.inj (h.recalled.symm.trans htold)
    rw [hobserve]
    refine recallName_of_echo fun other told hother htold => ?_
    obtain rfl : imsi = other := Option.some.inj (himsi.symm.trans hother)
    rw [h.echo told htold]
    exact (known_eq_some_iff.1 h.waiting).1

/-! ### Reading everything -/

/-- What was missed is made up for if another subscription is reported. -/
theorem imsiWaits_observeAll (h : ledger.ImsiWaits)
    (hseen : ∀ iccid imsi, MissesImsi modem iccid imsi ledger →
      ¬ ∀ reported, known modem.imsi = some reported → reported = imsi) :
    (ledger.observeAll modem).ImsiWaits := by
  have hnetwork : Renames (ledger.observeIccid modem)
      ((ledger.observeIccid modem).adoptHomeOperator modem) :=
    (Renames.refl _).adoptHomeOperator modem
  refine (((Renames.refl _).observeCardName modem).adoptHomeOperator modem).imsiWaits ?_
  refine imsiWaits_observeImsi fun hecho => hnetwork.imsiWaits ?_
  refine imsiWaits_observeIccid h fun iccid imsi hmissed => ?_
  refine hseen iccid imsi hmissed fun reported hreported => ?_
  have hsame := hecho reported hreported
  rw [hnetwork.imsi_eq, hmissed.renames_observeIccid.imsi_eq] at hsame
  exact (Option.some.inj ((known_eq_some_iff.1 hmissed.waiting).1.symm.trans hsame)).symm

/-- Otherwise it is not. -/
theorem MissesImsi.renames_observeAll (h : MissesImsi modem iccid imsi ledger)
    (hecho : ∀ reported, known modem.imsi = some reported → reported = imsi) :
    Renames { ledger with iccid := some iccid } (ledger.observeAll modem) := by
  have hnetwork : Renames { ledger with iccid := some iccid }
      ((ledger.observeIccid modem).adoptHomeOperator modem) :=
    h.renames_observeIccid.adoptHomeOperator modem
  have himsi : ((ledger.observeIccid modem).adoptHomeOperator modem).observeImsi modem =
      (ledger.observeIccid modem).adoptHomeOperator modem := by
    refine observeImsi_of_echo fun reported hreported => ?_
    rw [hnetwork.imsi_eq, hecho reported hreported]
    exact (known_eq_some_iff.1 h.waiting).1
  simp only [observeAll]
  rw [himsi]
  exact (hnetwork.observeCardName modem).adoptHomeOperator modem

/-- A name that was missed is made up for if another subscription is reported, or another name. -/
theorem nameWaits_observeAll (h : ledger.NameWaits)
    (hseen : ∀ iccid imsi name, MissesName modem iccid imsi name ledger →
      (∀ reported, known modem.imsi = some reported → reported = imsi) →
        ledger.EchoesCardName modem → ¬ ledger.EchoesOperator modem) :
    (ledger.observeAll modem).NameWaits := by
  refine nameWaits_adoptHomeOperator fun _ => ?_
  refine nameWaits_observeCardName fun hcard => ?_
  refine nameWaits_observeImsi fun himsi => ?_
  refine nameWaits_adoptHomeOperator fun hoperator => ?_
  rw [observeImsi_of_echo himsi, adoptHomeOperator_of_echo hoperator] at hcard
  rw [adoptHomeOperator_of_echo hoperator] at himsi
  refine nameWaits_observeIccid h fun iccid imsi name hmissed => ?_
  rw [hmissed.observeIccid_eq] at himsi hcard hoperator
  refine hseen iccid imsi name hmissed (fun reported hreported => ?_) hcard hoperator
  exact (Option.some.inj (himsi reported hreported)).symm

/-- Otherwise it is not. -/
theorem MissesName.observeAll_eq (h : MissesName modem iccid imsi name ledger)
    (himsi : ∀ reported, known modem.imsi = some reported → reported = imsi)
    (hcard : ledger.EchoesCardName modem) (hoperator : ledger.EchoesOperator modem) :
    ledger.observeAll modem =
      { ledger with iccid := some iccid, imsi := some imsi, imsiDirty := false } := by
  simp only [observeAll]
  rw [h.observeIccid_eq]
  generalize hseen :
    { ledger with iccid := some iccid, imsi := some imsi, imsiDirty := false } = seen
  have himsi' : seen.EchoesImsi modem := fun reported hreported => by
    rw [himsi reported hreported, ← hseen]
  have hcard' : seen.EchoesCardName modem := by
    rw [← hseen]
    exact hcard
  have hoperator' : seen.EchoesOperator modem := by
    rw [← hseen]
    exact hoperator
  rw [adoptHomeOperator_of_echo hoperator', observeImsi_of_echo himsi',
    observeCardName_of_echo hcard', adoptHomeOperator_of_echo hoperator']

/-! ### Calls -/

/-- The call makes known what a subscription or a name was waiting for, and goes on without saving
it. -/
inductive Overlooks (modem : Modem) (ledger : Ledger) : Call → Prop where
  /-- A serial number is reported that the subscription was waiting for. -/
  | imsi {iccid imsi : String} :
      MissesImsi modem iccid imsi ledger → Overlooks modem ledger (.report .iccid)
  /-- A serial number is reported that brings with it what the name was waiting for. -/
  | name {iccid imsi name : String} :
      MissesName modem iccid imsi name ledger → Overlooks modem ledger (.report .iccid)
  /-- Everything is read, and no other subscription is shown than the one that was waiting. -/
  | imsi_resync {iccid imsi : String} : MissesImsi modem iccid imsi ledger →
      (∀ reported, known modem.imsi = some reported → reported = imsi) →
        Overlooks modem ledger .resync
  /-- Everything is read, and neither another subscription is shown than the one recalled, nor
  another name than the one that was waiting. -/
  | name_resync {iccid imsi name : String} : MissesName modem iccid imsi name ledger →
      (∀ reported, known modem.imsi = some reported → reported = imsi) →
        ledger.EchoesCardName modem → ledger.EchoesOperator modem → Overlooks modem ledger .resync

/-- What is known is dirty exactly as long as there is no key to save it under. -/
structure Waits (ledger : Ledger) : Prop where
  /-- The subscription waits for the serial number. -/
  imsi : ledger.ImsiWaits
  /-- The name waits for the subscription. -/
  name : ledger.NameWaits

/-- What can be saved is not dirty. -/
structure Tidy (ledger : Ledger) : Prop where
  /-- The subscription is only dirty while it or the serial number is unknown. -/
  imsi : ledger.imsiDirty = true → known ledger.iccid = none ∨ known ledger.imsi = none
  /-- The name is only dirty while it or the subscription is unknown. -/
  name : ledger.nameDirty = true → known ledger.imsi = none ∨ known ledger.cachedName = none

theorem Waits.tidy (h : ledger.Waits) : ledger.Tidy where
  imsi hdirty := by
    by_cases himsi : known ledger.imsi = none
    · exact .inr himsi
    · exact .inl ((h.imsi himsi).1 hdirty)
  name hdirty := by
    by_cases hname : known ledger.cachedName = none
    · exact .inr hname
    · exact .inl ((h.name hname).1 hdirty)

/-- Answers a call. The standing with a network counts only while one is attached. -/
def answer (attached : Bool) (modem : Modem) (call : Call) (ledger : Ledger) : Ledger :=
  match call with
  | .report .iccid => ledger.observeIccid modem
  | .report .imsi => ledger.observeImsi modem
  | .report .spn => ledger.observeCardName modem
  | .report .network => ledger.adoptHomeOperator modem
  | .report .networkStatus => if attached then ledger.adoptHomeOperator modem else ledger
  | .resync => ledger.observeAll modem

variable {attached : Bool} {call : Call}

/-- A call that overlooks nothing leaves waiting what has to wait, and nothing else. -/
theorem Waits.answer (h : ledger.Waits) (hseen : ¬ ledger.Overlooks modem call) :
    (ledger.answer attached modem call).Waits := by
  have hoperator : (ledger.adoptHomeOperator modem).Waits :=
    ⟨((Renames.refl ledger).adoptHomeOperator modem).imsiWaits h.imsi,
      nameWaits_adoptHomeOperator fun _ => h.name⟩
  cases call with
  | resync =>
    exact ⟨imsiWaits_observeAll h.imsi fun _ _ hmissed himsi => hseen (.imsi_resync hmissed himsi),
      nameWaits_observeAll h.name fun _ _ _ hmissed himsi hcard hoperator =>
        hseen (.name_resync hmissed himsi hcard hoperator)⟩
  | report change =>
    cases change with
    | iccid =>
      exact ⟨imsiWaits_observeIccid h.imsi fun _ _ hmissed => hseen (.imsi hmissed),
        nameWaits_observeIccid h.name fun _ _ _ hmissed => hseen (.name hmissed)⟩
    | imsi => exact ⟨imsiWaits_observeImsi fun _ => h.imsi, nameWaits_observeImsi fun _ => h.name⟩
    | spn =>
      exact ⟨((Renames.refl ledger).observeCardName modem).imsiWaits h.imsi,
        nameWaits_observeCardName fun _ => h.name⟩
    | network => exact hoperator
    | networkStatus =>
      simp only [Ledger.answer]
      split
      · exact hoperator
      · exact h

/-- A missed subscription is left dirty, with all that is needed to save it. -/
theorem MissesImsi.not_tidy (h : MissesImsi modem iccid imsi ledger) (hwaits : ledger.ImsiWaits)
    (hafter : Renames { ledger with iccid := some iccid } after) : ¬ after.Tidy := by
  intro htidy
  have himsi : known ledger.imsi ≠ none := Option.ne_none_iff_exists'.2 ⟨imsi, h.waiting⟩
  have hdirty : ledger.imsiDirty = true := (hwaits himsi).2 h.missing
  rcases htidy.imsi (hafter.imsiDirty_eq.trans hdirty) with hnone | hnone
  · rw [hafter.iccid_eq, known_some (known_eq_some_iff.1 h.shown).2] at hnone
    cases hnone
  · rw [hafter.imsi_eq] at hnone
    exact himsi hnone

/-- So is a missed name. -/
theorem MissesName.not_tidy (h : MissesName modem iccid imsi name ledger)
    (hwaits : ledger.NameWaits) :
    ¬ { ledger with iccid := some iccid, imsi := some imsi, imsiDirty := false }.Tidy := by
  intro htidy
  have hname : known ledger.cachedName ≠ none := Option.ne_none_iff_exists'.2 ⟨name, h.waiting⟩
  rcases htidy.name ((hwaits hname).2 h.missing) with hnone | hnone
  · have himsi : known (some imsi) = none := hnone
    rw [known_some (known_eq_some_iff.1 h.recalled).2] at himsi
    cases himsi
  · exact hname hnone

theorem Overlooks.not_tidy (h : ledger.Overlooks modem call) (hwaits : ledger.Waits) :
    ¬ (ledger.answer attached modem call).Tidy := by
  cases h with
  | imsi hmissed => exact hmissed.not_tidy hwaits.imsi hmissed.renames_observeIccid
  | name hmissed =>
    show ¬ (ledger.observeIccid modem).Tidy
    rw [hmissed.observeIccid_eq]
    exact hmissed.not_tidy hwaits.name
  | imsi_resync hmissed himsi =>
    exact hmissed.not_tidy hwaits.imsi (hmissed.renames_observeAll himsi)
  | name_resync hmissed himsi hcard hoperator =>
    show ¬ (ledger.observeAll modem).Tidy
    rw [hmissed.observeAll_eq himsi hcard hoperator]
    exact hmissed.not_tidy hwaits.name

end Ledger

/-! ### Runs -/

variable {cfg : Config} {run : Run VolatileStore}

/-- For the cache, a call over a memory that can be reached is one to the ledger. -/
theorem Reachable.ledger_perform (h : Reachable cfg run) (havailable : run.store.available = true)
    (modem : Modem) (call : Call) :
    (run.perform cfg modem call).ledger cfg = (run.ledger cfg).answer run.attached modem call := by
  have hretry : run.retryWrites cfg = run :=
    Run.retryWrites_of_not_failed (h.writeFailed_of_available havailable)
  cases call with
  | resync =>
    show ((run.retryWrites cfg).observeAll cfg modem).ledger cfg = _
    rw [hretry]
    exact Run.ledger_observeAll havailable modem
  | report change =>
    show ((run.retryWrites cfg).observe cfg modem change).ledger cfg = _
    rw [hretry]
    cases change with
    | iccid =>
      simp only [Run.observe]
      rw [Run.ledger_observeIccid]
      · rfl
      · exact havailable
    | imsi => exact Run.ledger_observeImsi havailable modem
    | spn => exact Run.ledger_observeCardName havailable modem
    | network => exact Run.ledger_observeNetwork havailable modem
    | networkStatus =>
      simp only [Run.observe, Ledger.answer]
      split
      · exact Run.ledger_adoptHomeOperator havailable modem
      · rfl

/-- What can be written is not pending. -/
structure Knowledge.Tidy (knowledge : Knowledge) : Prop where
  /-- The subscription is only dirty while it or the serial number is missing. -/
  imsi : knowledge.imsiDirty = true →
    knowledge.identity.iccid = none ∨ knowledge.identity.imsi = none
  /-- The name is only dirty while it or the subscription is missing. -/
  name : knowledge.nameDirty = true → knowledge.identity.imsi = none ∨ knowledge.cachedName = none

/-- Where everything is known, nothing is pending. -/
theorem Knowledge.Tidy.hasPendingWrites {knowledge : Knowledge} (h : knowledge.Tidy)
    (hiccid : knowledge.identity.iccid ≠ none) (himsi : knowledge.identity.imsi ≠ none)
    (hname : knowledge.cachedName ≠ none) : knowledge.hasPendingWrites = false := by
  refine Bool.or_eq_false_iff.2 ⟨?_, ?_⟩
  · exact Bool.eq_false_iff.2 fun hdirty => (h.name hdirty).elim himsi hname
  · exact Bool.eq_false_iff.2 fun hdirty => (h.imsi hdirty).elim hiccid himsi

/-- Since no text that is known is empty, a tracker is as tidy as its ledger. -/
theorem Reachable.tidy_iff (h : Reachable cfg run) : run.Tidy ↔ (run.ledger cfg).Tidy := by
  have hsound := h.coherent.toSound
  have hiccid : known run.identity.iccid = run.identity.iccid := known_eq_self hsound.iccid_ne
  have himsi : known run.identity.imsi = run.identity.imsi := known_eq_self hsound.imsi_ne
  have hname : known run.cachedName = run.cachedName := known_eq_self hsound.cachedName_ne
  constructor
  · intro htidy
    refine ⟨fun hdirty => ?_, fun hdirty => ?_⟩
    · show known run.identity.iccid = none ∨ known run.identity.imsi = none
      rw [hiccid, himsi]
      exact htidy.imsi hdirty
    · show known run.identity.imsi = none ∨ known run.cachedName = none
      rw [himsi, hname]
      exact htidy.name hdirty
  · intro htidy
    refine ⟨fun hdirty => ?_, fun hdirty => ?_⟩
    · rw [← hiccid, ← himsi]
      exact htidy.imsi hdirty
    · rw [← himsi, ← hname]
      exact htidy.name hdirty

/-- From a moment on at which nothing but what has to waits, a run is tidy as long as nothing is
overlooked. -/
theorem Reachable.tidy_performAll_iff (h : Reachable cfg run)
    (havailable : run.store.available = true) (hwaits : (run.ledger cfg).Waits)
    (calls : List (Modem × Call)) :
    (∀ before, before <+: calls → (run.performAll cfg before).Tidy) ↔
      ∀ before next, before ++ [next] <+: calls →
        ¬ ((run.performAll cfg before).ledger cfg).Overlooks next.1 next.2 := by
  induction calls generalizing run with
  | nil =>
    refine iff_of_true (fun before hbefore => ?_) fun before next hbefore => ?_
    · rw [List.prefix_nil.1 hbefore]
      exact h.tidy_iff.2 hwaits.tidy
    · exact absurd (List.prefix_nil.1 hbefore) (by simp)
  | cons head rest ih =>
    obtain ⟨modem, call⟩ := head
    have hperform := h.perform modem call
    have hledger := h.ledger_perform havailable modem call
    have hstored := (Run.uses_perform cfg modem call run).available havailable
    -- if the first call overlooks something, both sides fail, whatever comes after it
    by_cases hseen : (run.ledger cfg).Overlooks modem call
    · refine iff_of_false (fun htidy => ?_) fun hnone => ?_
      · have hafter : (run.perform cfg modem call).Tidy :=
          htidy [(modem, call)] (by simp)
        rw [hperform.tidy_iff, hledger] at hafter
        exact hseen.not_tidy hwaits hafter
      · exact hnone [] (modem, call) (by simp) hseen
    · have hrest := ih hperform hstored (by rw [hledger]; exact hwaits.answer hseen)
      constructor
      · intro htidy before next hbefore
        cases before with
        | nil =>
          obtain ⟨rfl, -⟩ := List.cons_prefix_cons.1 hbefore
          exact hseen
        | cons first before =>
          obtain ⟨rfl, hrest'⟩ := List.cons_prefix_cons.1 hbefore
          refine hrest.1 (fun others hothers => ?_) before next hrest'
          exact htidy ((modem, call) :: others) (List.cons_prefix_cons.2 ⟨rfl, hothers⟩)
      · intro hnone before hbefore
        cases before with
        | nil => exact h.tidy_iff.2 hwaits.tidy
        | cons first before =>
          obtain ⟨rfl, hrest'⟩ := List.cons_prefix_cons.1 hbefore
          refine hrest.2 (fun others next hothers => ?_) before hrest'
          exact hnone ((modem, call) :: others) next (List.cons_prefix_cons.2 ⟨rfl, hothers⟩)

/-- At the start nothing is overlooked. -/
theorem Run.waits_start {store : VolatileStore} (havailable : store.available = true) (cfg : Config)
    (modem : Modem) : ((start cfg modem store).ledger cfg).Waits := by
  rw [ledger_start havailable]
  have hblank : Ledger.Waits { entries := store.cached cfg, committed := store.committed } :=
    ⟨fun himsi => absurd rfl himsi, fun hname => absurd rfl hname⟩
  show (Ledger.answer false modem .resync _).Waits
  refine hblank.answer fun hseen => ?_
  cases hseen with
  | imsi_resync hmissed _ => exact absurd hmissed.waiting.symm (Option.some_ne_none _)
  | name_resync hmissed _ _ _ => exact absurd hmissed.waiting.symm (Option.some_ne_none _)

/-- **Nothing else is pending without need.** Over a memory that can be reached at all times, a run
is tidy after its start and after each of its calls, exactly if none of the calls overlooks
something. -/
theorem always_tidy_iff (cfg : Config) (modem : Modem) {store : VolatileStore}
    (havailable : store.available = true) (calls : List (Modem × Call)) :
    let run := Run.start cfg modem store
    (∀ before, before <+: calls → (run.performAll cfg before).Tidy) ↔
      ∀ before next, before ++ [next] <+: calls →
        ¬ ((run.performAll cfg before).ledger cfg).Overlooks next.1 next.2 :=
  Reachable.tidy_performAll_iff (.start modem store)
    ((Run.uses_start cfg modem store).available havailable) (Run.waits_start havailable cfg modem)
    calls

/-- A card that reports its serial number first is saved step by step. -/
theorem tidy_from_serial_number :
    let card : Modem :=
      { path := "/ril_0", iccid := some "8901", imsi := some "00101", spn := some "Card" }
    let run := Run.start {} { path := "/ril_0", iccid := some "8901" } (∅ : VolatileStore)
    let calls := [(card, Call.report .imsi), (card, Call.report .spn)]
    (∅ : VolatileStore).available = true ∧
      ∀ before, before <+: calls → (run.performAll {} before).Tidy := by
  intro card run calls
  refine ⟨rfl, (always_tidy_iff {} { path := "/ril_0", iccid := some "8901" } rfl calls).2 ?_⟩
  intro before next hbefore hoverlooks
  have hmem : next ∈ calls := hbefore.subset (List.mem_append_right _ List.mem_cons_self)
  simp only [calls, List.mem_cons, List.not_mem_nil, or_false] at hmem
  rcases hmem with rfl | rfl
  · cases hoverlooks
  · cases hoverlooks

/-- A subscription that is known before the serial number is not saved when that is reported. -/
theorem pending_with_everything_known :
    let card : Modem := { path := "/ril_0", imsi := some "00101", spn := some "Card" }
    let run := Run.start {} card (∅ : VolatileStore)
    let after := run.handle {} { card with iccid := some "8901" } .iccid
    Reachable {} after ∧ after.store.available = true ∧ after.identity.iccid = some "8901" ∧
      after.identity.imsi = some "00101" ∧ after.cachedName = some "Card" ∧
      after.imsiDirty = true ∧ after.hasPendingWrites = true := by
  intro card run after
  refine ⟨Reachable.perform _ (.report .iccid) (.start card ∅), ?_⟩
  decide +kernel

end SimIdentity
