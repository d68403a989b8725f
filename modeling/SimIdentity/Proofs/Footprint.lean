import SimIdentity.Tracker.Lifecycle

/-!
# What a step touches

A tracker's work is put together from a few small steps, and each of them touches a few parts
of the run only. This module says which, once for each step: `f_touches` gives the result of
`f` as the run it started from with some parts replaced, so that everything else is the same
by definition. What has become of the replaced parts is the subject of the modules that need
it. Of choosing the name and of forgetting a card, `f_eq` also says which signals become due.

A step that may end early, because there is nothing new, is said to replace its parts by what
they were.
-/

namespace SimIdentity.Run

variable {σ : Type}

/-! ### Choosing the name -/

/-- The name's signal becomes due exactly if another name is shown. -/
theorem refreshPublicName_eq (run : Run σ) {name : Option String}
    (h : publicName? run.cardName run.cachedName run.fallback = name) :
    ∃ trail, run.refreshPublicName =
      { run with
        trail, due := if run.identity.spn = name then run.due else run.due.insert .spn
        identity.spn := name } := by
  simp only [refreshPublicName]
  rw [h]
  by_cases hsame : run.identity.spn = name
  · rw [if_pos hsame, if_pos hsame]
    exact ⟨_, by rw [← hsame]⟩
  · rw [if_neg hsame, if_neg hsame]
    exact ⟨_, rfl⟩

/-- Choosing the name anew replaces the name shown, by the first source that says something. -/
theorem refreshPublicName_touches (run : Run σ) :
    ∃ trail due, run.refreshPublicName =
      { run with
        trail, due
        identity.spn := publicName? run.cardName run.cachedName run.fallback } := by
  obtain ⟨trail, hrefresh⟩ := refreshPublicName_eq run rfl
  exact ⟨trail, _, hrefresh⟩

theorem refreshFallback_touches (modem : Modem) (run : Run σ) :
    ∃ trail due spn, run.refreshFallback modem =
      { run with trail, due, fallback := modem.fallbackName, identity.spn := spn } := by
  simp only [refreshFallback]
  split
  case isTrue h => exact ⟨_, _, _, by rw [← h]⟩
  case isFalse =>
    obtain ⟨trail, due, h⟩ := refreshPublicName_touches
      { run.note (.fallbackChanged modem.fallbackName) with fallback := modem.fallbackName }
    exact ⟨trail, due, _, h⟩

/-- At most the cached name and the name shown were replaced, and what keeping them in step with
the cache and the subscribers takes. -/
def Renamed (run later : Run σ) : Prop :=
  ∃ store trail due spn nameDirty writeFailed cachedName, later =
    { run with store, trail, due, nameDirty, writeFailed, cachedName, identity.spn := spn }

namespace Renamed

variable {run later last : Run σ}

theorem refl (run : Run σ) : Renamed run run := ⟨_, _, _, _, _, _, _, rfl⟩

theorem trans (h : Renamed run later) (h' : Renamed later last) : Renamed run last := by
  obtain ⟨_, _, _, _, _, _, _, rfl⟩ := h
  obtain ⟨_, _, _, _, _, _, _, rfl⟩ := h'
  exact ⟨_, _, _, _, _, _, _, rfl⟩

theorem iccid_eq (h : Renamed run later) : later.identity.iccid = run.identity.iccid := by
  obtain ⟨_, _, _, _, _, _, _, rfl⟩ := h
  rfl

theorem imsi_eq (h : Renamed run later) : later.identity.imsi = run.identity.imsi := by
  obtain ⟨_, _, _, _, _, _, _, rfl⟩ := h
  rfl

theorem cardName_eq (h : Renamed run later) : later.cardName = run.cardName := by
  obtain ⟨_, _, _, _, _, _, _, rfl⟩ := h
  rfl

theorem fallback_eq (h : Renamed run later) : later.fallback = run.fallback := by
  obtain ⟨_, _, _, _, _, _, _, rfl⟩ := h
  rfl

theorem attached_eq (h : Renamed run later) : later.attached = run.attached := by
  obtain ⟨_, _, _, _, _, _, _, rfl⟩ := h
  rfl

theorem refreshPublicName (h : Renamed run later) : Renamed run later.refreshPublicName := by
  obtain ⟨_, _, hlater⟩ := refreshPublicName_touches later
  rw [hlater]
  exact h.trans ⟨_, _, _, _, _, _, _, rfl⟩

end Renamed

/-! ### Recalling and forgetting -/

/-- What the cache tells may have been taken over, and it was kept in step. The serial number, the
name on the card and the network were left alone. -/
def Recalled (run later : Run σ) : Prop :=
  ∃ store trail due imsi spn fallback cachedName imsiDirty nameDirty writeFailed, later =
    { run with
      store, trail, due, fallback, cachedName, imsiDirty, nameDirty, writeFailed
      identity.imsi := imsi, identity.spn := spn }

namespace Recalled

variable {run later last : Run σ}

theorem trans (h : Recalled run later) (h' : Recalled later last) : Recalled run last := by
  obtain ⟨_, _, _, _, _, _, _, _, _, _, rfl⟩ := h
  obtain ⟨_, _, _, _, _, _, _, _, _, _, rfl⟩ := h'
  exact ⟨_, _, _, _, _, _, _, _, _, _, rfl⟩

theorem refreshFallback (h : Recalled run later) (modem : Modem) :
    Recalled run (later.refreshFallback modem) := by
  obtain ⟨_, _, _, hlater⟩ := refreshFallback_touches modem later
  rw [hlater]
  exact h.trans ⟨_, _, _, _, _, _, _, _, _, _, rfl⟩

end Recalled

/-- The signals that become due when a card that is shown like that is forgotten. -/
def dueOnLoss (identity : Identity) (due : SignalSet) : SignalSet :=
  let due := if identity.imsi = none then due else due.insert .imsi
  if identity.spn = none then due else due.insert .spn

/-- With the card everything goes that was known about it, and the signals of what there was become
due. -/
theorem forgetCard_eq (run : Run σ) :
    ∃ trail, run.forgetCard =
      { run with
        trail, due := dueOnLoss run.identity run.due
        cardName := none, cachedName := none, fallback := ∅
        identity.imsi := none, identity.spn := none } := by
  have hlost : ∃ trail, (if (run.note .iccidLost).identity.imsi = none then
      run.note .iccidLost else (run.note .iccidLost).queue .imsi) =
        { run with
          trail, due := if run.identity.imsi = none then run.due else run.due.insert .imsi } := by
    by_cases himsi : run.identity.imsi = none
    · rw [if_pos himsi, if_pos (show (run.note .iccidLost).identity.imsi = none from himsi)]
      exact ⟨_, rfl⟩
    · rw [if_neg himsi, if_neg (show ¬ (run.note .iccidLost).identity.imsi = none from himsi)]
      exact ⟨_, rfl⟩
  obtain ⟨trail, hlost⟩ := hlost
  simp only [forgetCard]
  rw [hlost]
  obtain ⟨_, hrefresh⟩ := refreshPublicName_eq
    ({ run with
      trail, due := if run.identity.imsi = none then run.due else run.due.insert .imsi
      cardName := none, cachedName := none, fallback := ∅, identity.imsi := none } : Run σ)
    (show publicName? none none ∅ = none from rfl)
  rw [hrefresh]
  exact ⟨_, rfl⟩

theorem forgetCard_touches (run : Run σ) :
    ∃ trail due, run.forgetCard =
      { run with
        trail, due, cardName := none, cachedName := none, fallback := ∅
        identity.imsi := none, identity.spn := none } := by
  obtain ⟨trail, hforget⟩ := forgetCard_eq run
  exact ⟨trail, _, hforget⟩

/-! ### Reading and writing the cache -/

variable [StringStore σ]

theorem lookup_touches (cfg : Config) (entry : Cache.Entry) (run : Run σ) :
    ∃ outcome store trail, Cache.lookup cfg entry run.store = (outcome, store) ∧
      run.lookup cfg entry = (outcome, { run with store, trail }) :=
  ⟨_, _, _, rfl, rfl⟩

theorem persistImsi_touches (cfg : Config) (run : Run σ) :
    ∃ store trail imsiDirty writeFailed, run.persistImsi cfg =
      { run with store, trail, imsiDirty, writeFailed } := by
  simp only [persistImsi]
  split
  · split
    · exact ⟨_, _, _, _, rfl⟩
    · exact ⟨_, _, _, _, rfl⟩
  · exact ⟨_, _, _, _, rfl⟩

theorem persistName_touches (cfg : Config) (run : Run σ) :
    ∃ store trail nameDirty writeFailed, run.persistName cfg =
      { run with store, trail, nameDirty, writeFailed } := by
  simp only [persistName]
  split
  · split
    · exact ⟨_, _, _, _, rfl⟩
    · exact ⟨_, _, _, _, rfl⟩
  · exact ⟨_, _, _, _, rfl⟩

theorem retryWrites_touches (cfg : Config) (run : Run σ) :
    ∃ store trail imsiDirty nameDirty writeFailed, run.retryWrites cfg =
      { run with store, trail, imsiDirty, nameDirty, writeFailed } := by
  simp only [retryWrites]
  split
  · obtain ⟨_, _, _, _, himsi⟩ := persistImsi_touches cfg
      ({ run with writeFailed := false }.note .retrying)
    obtain ⟨_, _, _, _, hname⟩ := persistName_touches cfg
      (({ run with writeFailed := false }.note .retrying).persistImsi cfg)
    rw [hname, himsi]
    exact ⟨_, _, _, _, _, rfl⟩
  · exact ⟨_, _, _, _, _, rfl⟩

/-! ### Taking over a name -/

theorem adoptName_touches (cfg : Config) (name : String) (run : Run σ) :
    ∃ store trail due spn nameDirty writeFailed, run.adoptName cfg name =
      { run with
        store, trail, due, nameDirty, writeFailed
        cachedName := some name, identity.spn := spn } := by
  simp only [adoptName]
  split
  case isTrue h => exact ⟨_, _, _, _, _, _, by rw [← h]⟩
  case isFalse =>
    obtain ⟨_, _, _, _, hpersist⟩ := persistName_touches cfg
      ({ run.note (.nameAdopted name) with cachedName := some name, nameDirty := true } : Run σ)
    obtain ⟨_, _, hrefresh⟩ := refreshPublicName_touches
      (({ run.note (.nameAdopted name) with
          cachedName := some name, nameDirty := true } : Run σ).persistName cfg)
    rw [hrefresh, hpersist]
    exact ⟨_, _, _, _, _, _, rfl⟩

namespace Renamed

variable {run later : Run σ}

theorem persistName (h : Renamed run later) (cfg : Config) :
    Renamed run (later.persistName cfg) := by
  obtain ⟨_, _, _, _, hlater⟩ := persistName_touches cfg later
  rw [hlater]
  exact h.trans ⟨_, _, _, _, _, _, _, rfl⟩

theorem adoptName (h : Renamed run later) (cfg : Config) (name : String) :
    Renamed run (later.adoptName cfg name) := by
  obtain ⟨_, _, _, _, _, _, hlater⟩ := adoptName_touches cfg name later
  rw [hlater]
  exact h.trans ⟨_, _, _, _, _, _, _, rfl⟩

end Renamed

theorem adoptCardName_touches (cfg : Config) (name : String) (run : Run σ) :
    Renamed { run with cardName := some name } (run.adoptCardName cfg name) := by
  simp only [adoptCardName]
  split
  case isTrue h =>
    rw [← h]
    exact .refl run
  case isFalse =>
    refine Renamed.refreshPublicName (Renamed.persistName (Renamed.adoptName ?_ cfg name) cfg)
    exact ⟨_, _, _, _, _, _, _, rfl⟩

theorem adoptHomeOperator_touches (cfg : Config) (modem : Modem) (run : Run σ) :
    Renamed run (run.adoptHomeOperator cfg modem) := by
  unfold adoptHomeOperator
  split
  · exact .refl run
  case h_2 name _ =>
    have hnote : Renamed run (run.note (.homeNetwork name)) := ⟨_, _, _, _, _, _, _, rfl⟩
    dsimp only
    split
    · exact hnote.adoptName cfg name
    · exact hnote

theorem recallName_touches (cfg : Config) (run : Run σ) : Renamed run (run.recallName cfg) := by
  simp only [recallName]
  split
  · exact .refl run
  case h_2 imsi _ =>
    obtain ⟨outcome, store, trail, -, hlookup⟩ := lookup_touches cfg (.nameOf imsi) run
    have hread : Renamed run { run with store, trail } := ⟨_, _, _, _, _, _, _, rfl⟩
    rw [hlookup]
    cases outcome with
    | found name =>
      dsimp only
      split
      · exact hread
      · split
        · refine Renamed.persistName (hread.trans ?_) cfg
          exact ⟨_, _, _, _, _, _, _, rfl⟩
        · refine Renamed.refreshPublicName (Renamed.persistName (hread.trans ?_) cfg)
          split <;> exact ⟨_, _, _, _, _, _, _, rfl⟩
    | missing => exact hread
    | unreadable => exact hread

/-! ### Observing the modem -/

namespace Recalled

variable {run later : Run σ}

theorem persistImsi (h : Recalled run later) (cfg : Config) :
    Recalled run (later.persistImsi cfg) := by
  obtain ⟨_, _, _, _, hlater⟩ := persistImsi_touches cfg later
  rw [hlater]
  exact h.trans ⟨_, _, _, _, _, _, _, _, _, _, rfl⟩

theorem recallName (h : Recalled run later) (cfg : Config) :
    Recalled run (later.recallName cfg) := by
  obtain ⟨_, _, _, _, _, _, _, hlater⟩ := recallName_touches cfg later
  rw [hlater]
  exact h.trans ⟨_, _, _, _, _, _, _, _, _, _, rfl⟩

end Recalled

theorem recallImsi_touches (cfg : Config) (modem : Modem) (iccid : String) (run : Run σ) :
    Recalled run (run.recallImsi cfg modem iccid) := by
  obtain ⟨outcome, store, trail, -, hlookup⟩ := lookup_touches cfg (.imsiOf iccid) run
  have hread : Recalled run { run with store, trail } := ⟨_, _, _, _, _, _, _, _, _, _, rfl⟩
  simp only [recallImsi]
  rw [hlookup]
  cases outcome with
  | found imsi =>
    have hqueue (later : Run σ) : Recalled later (later.queue .imsi) :=
      ⟨_, _, _, _, _, _, _, _, _, _, rfl⟩
    dsimp only
    split
    · exact hread
    · refine Recalled.trans (.refreshFallback (.persistImsi (hread.trans ?_) cfg) modem) (hqueue _)
      split
      · exact ⟨_, _, _, _, _, _, _, _, _, _, rfl⟩
      · exact ⟨_, _, _, _, _, _, _, _, _, _, rfl⟩
  | missing => exact hread
  | unreadable => exact hread

theorem recallCard_touches (cfg : Config) (modem : Modem) (iccid : String) (run : Run σ) :
    Recalled run (run.recallCard cfg modem iccid) :=
  (recallImsi_touches cfg modem iccid run).recallName cfg

/-- After observing the serial number it is the one that the modem shows. -/
theorem iccid_observeIccid (cfg : Config) (modem : Modem) (run : Run σ) :
    (run.observeIccid cfg modem).identity.iccid = known modem.iccid := by
  simp only [observeIccid]
  split
  case isTrue h => exact h
  case isFalse =>
    split
    case h_1 iccid hiccid =>
      obtain ⟨_, _, _, _, _, _, _, _, _, _, hrecall⟩ := recallCard_touches cfg modem iccid
        ({ run with identity.iccid := some iccid }.queue .iccid)
      rw [hiccid, hrecall]
      rfl
    case h_2 hiccid =>
      obtain ⟨_, _, hforget⟩ := forgetCard_touches
        ({ run with identity.iccid := none }.queue .iccid)
      rw [hiccid, hforget]
      rfl

theorem adoptImsi_touches (cfg : Config) (imsi : String) (run : Run σ) :
    ∃ imsiDirty, Renamed { run with imsiDirty, identity.imsi := some imsi }
      (run.adoptImsi cfg imsi) := by
  simp only [adoptImsi]
  split
  case isTrue h => exact ⟨_, by rw [← h]; exact .refl run⟩
  case isFalse =>
    obtain ⟨store, trail, imsiDirty, writeFailed, hpersist⟩ := persistImsi_touches cfg
      ({ run.note (.imsiAdopted imsi) with
        identity.imsi := some imsi, imsiDirty := true } : Run σ)
    refine ⟨imsiDirty, ?_⟩
    have hqueue (later : Run σ) : Renamed later (later.queue .imsi) := ⟨_, _, _, _, _, _, _, rfl⟩
    refine (Renamed.persistName (.trans ?_ (recallName_touches cfg _)) cfg).trans (hqueue _)
    rw [hpersist]
    exact ⟨_, _, _, _, _, _, _, rfl⟩

/-- Observing the subscription replaces it only by what the modem reports. -/
theorem observeImsi_touches (cfg : Config) (modem : Modem) (run : Run σ) :
    ∃ imsiDirty, Renamed
      { run with
        imsiDirty, fallback := modem.fallbackName
        identity.imsi := known modem.imsi <|> run.identity.imsi }
      (run.observeImsi cfg modem) := by
  simp only [observeImsi]
  cases known modem.imsi with
  | none =>
    obtain ⟨_, _, _, hrefresh⟩ := refreshFallback_touches modem run
    refine ⟨run.imsiDirty, ?_⟩
    dsimp only
    rw [hrefresh]
    exact ⟨_, _, _, _, _, _, _, rfl⟩
  | some imsi =>
    obtain ⟨imsiDirty, _, _, _, _, _, _, _, hadopt⟩ := adoptImsi_touches cfg imsi run
    obtain ⟨_, _, _, hrefresh⟩ := refreshFallback_touches modem (run.adoptImsi cfg imsi)
    refine ⟨imsiDirty, ?_⟩
    dsimp only
    rw [hrefresh, hadopt]
    exact ⟨_, _, _, _, _, _, _, rfl⟩

/-- Observing the name on the card replaces it only by what the modem reports. -/
theorem observeCardName_touches (cfg : Config) (modem : Modem) (run : Run σ) :
    Renamed { run with cardName := known modem.spn <|> run.cardName }
      (run.observeCardName cfg modem) := by
  simp only [observeCardName]
  cases known modem.spn with
  | none => exact .refl run
  | some name => exact adoptCardName_touches cfg name run

/-- Without a network there is no operator to take a name from. -/
theorem adoptHomeOperator_of_not_attached {modem : Modem} (h : modem.network.isSome = false)
    (cfg : Config) (run : Run σ) : run.adoptHomeOperator cfg modem = run := by
  have hnone : modem.network = none := by
    rwa [Option.isSome_eq_false_iff, Option.isNone_iff_eq_none] at h
  unfold adoptHomeOperator
  rw [Modem.homeOperator?_of_network_none hnone]

/-- Observing the network is to learn whether one is attached, and then to look for the operator's
name in any case. -/
theorem observeNetwork_eq_adoptHomeOperator (cfg : Config) (modem : Modem) (run : Run σ) :
    ∃ trail, run.observeNetwork cfg modem =
      adoptHomeOperator cfg modem { run with trail, attached := modem.network.isSome } := by
  simp only [observeNetwork]
  split
  case isTrue hsome =>
    rw [hsome]
    split
    case isTrue hattached => exact ⟨run.trail, by rw [← hattached]⟩
    case isFalse => exact ⟨_, rfl⟩
  case isFalse hnone =>
    have hnone' : modem.network.isSome = false := Bool.eq_false_iff.2 hnone
    rw [hnone']
    simp only [adoptHomeOperator_of_not_attached hnone']
    split
    case isTrue => exact ⟨_, rfl⟩
    case isFalse hattached => exact ⟨run.trail, by rw [← Bool.eq_false_iff.2 hattached]⟩

/-- After observing the network it is known whether one is attached. -/
theorem observeNetwork_touches (cfg : Config) (modem : Modem) (run : Run σ) :
    Renamed { run with attached := modem.network.isSome } (run.observeNetwork cfg modem) := by
  obtain ⟨trail, hobserve⟩ := observeNetwork_eq_adoptHomeOperator cfg modem run
  rw [hobserve]
  refine .trans ?_ (adoptHomeOperator_touches cfg modem _)
  exact ⟨_, _, _, _, _, _, _, rfl⟩

/-- A new standing with the network concerns nothing but the name. -/
theorem observe_networkStatus_touches (cfg : Config) (modem : Modem) (run : Run σ) :
    Renamed run (run.observe cfg modem .networkStatus) := by
  simp only [observe]
  split
  · exact adoptHomeOperator_touches cfg modem run
  · exact .refl run

/-! ### Starting -/

/-- After everything was read, nothing is left due at the start, and that is all. -/
theorem start_touches (cfg : Config) (modem : Modem) (store : σ) :
    ∃ sent, start cfg modem store =
      ({ observeAll cfg modem { identity := { path := modem.path }, store } with due := ∅, sent } :
        Run σ).note .started := by
  simp only [start]
  split
  · exact ⟨_, rfl⟩
  · exact ⟨_, rfl⟩

end SimIdentity.Run
