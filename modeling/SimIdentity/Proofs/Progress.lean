import SimIdentity.Proofs.Footprint
import SimIdentity.Proofs.Reachable

/-!
# What a tracker does inside a call

`Progress` relates a run to a later moment of the same call. It is what every step does,
whatever it is about: the stores are only used through the cache, nothing is sent, the modem
stays the same, a signal that is due stays due, and a part of the identity that changed has its
signal due.

A value can change several times in one call, in steps that are nested in one another, so this
cannot be read off the whole call. But it is a preorder (`Progress.refl`, `Progress.trans`), and
so each step needs to be looked at once only.

A step that changes the subscription makes its signal due only at its end, after it has used the
cache. `late` names a signal that may still be owed; it is `none` for a step as a whole.
-/

namespace SimIdentity

variable {σ : Type} [StringStore σ]

namespace Cache

/-- What an entry is found under. -/
def Entry.key : Entry → String
  | imsiOf iccid => iccid
  | nameOf imsi => imsi

/-- The stores that come about by looking entries up and saving them, none of them under an empty
key or with an empty text. -/
inductive Uses (cfg : Config) (store : σ) : σ → Prop where
  /-- Nothing was done. -/
  | refl : Uses cfg store store
  /-- At last an entry was looked up. -/
  | lookup {later : σ} (entry : Entry) :
      entry.key ≠ "" → Uses cfg store later → Uses cfg store (lookup cfg entry later).2
  /-- At last an entry was saved. -/
  | save {later : σ} (entry : Entry) (text : String) :
      entry.key ≠ "" → text ≠ "" → Uses cfg store later →
        Uses cfg store (save cfg entry text later).2

theorem Uses.trans {cfg : Config} {store later last : σ} (h : Uses cfg store later)
    (h' : Uses cfg later last) : Uses cfg store last := by
  induction h' with
  | refl => exact h
  | lookup entry hkey _ ih => exact ih.lookup entry hkey
  | save entry text hkey htext _ ih => exact ih.save entry text hkey htext

end Cache

/-- The part of the identity that a signal is about. -/
def Identity.part (identity : Identity) : Signal → Option String
  | .iccid => identity.iccid
  | .imsi => identity.imsi
  | .spn => identity.spn

/-- What every step inside a call does. -/
structure Progress (cfg : Config) (late : Option Signal) (run later : Run σ) : Prop where
  /-- The stores are used through the cache. -/
  uses : Cache.Uses cfg run.store later.store
  /-- The modem stays the same. -/
  path_eq : later.identity.path = run.identity.path
  /-- Nothing is sent. -/
  sent_eq : later.sent = run.sent
  /-- What was due is due, and so is what changed, unless its signal is to come. -/
  mem_due {signal : Signal} : some signal ≠ late →
    signal ∈ run.due ∨ later.identity.part signal ≠ run.identity.part signal → signal ∈ later.due

namespace Progress

variable {cfg : Config} {late : Option Signal} {run later last : Run σ}

theorem refl (run : Run σ) : Progress cfg late run run where
  uses := .refl
  path_eq := rfl
  sent_eq := rfl
  mem_due _ h := h.elim id fun h => absurd rfl h

theorem trans (h : Progress cfg late run later) (h' : Progress cfg late later last) :
    Progress cfg late run last where
  uses := h.uses.trans h'.uses
  path_eq := h'.path_eq.trans h.path_eq
  sent_eq := h'.sent_eq.trans h.sent_eq
  mem_due {signal} hlate hchange := by
    -- a part that is new at the end changed in the first half or in the second one
    by_cases hpart : later.identity.part signal = run.identity.part signal
    · rcases hchange with hdue | hchange
      · exact h'.mem_due hlate (.inl (h.mem_due hlate (.inl hdue)))
      · rw [← hpart] at hchange
        exact h'.mem_due hlate (.inr hchange)
    · exact h'.mem_due hlate (.inl (h.mem_due hlate (.inr hpart)))

/-- A signal may be owed that is not. -/
theorem weaken (h : Progress cfg none run later) : Progress cfg late run later :=
  { h with mem_due := fun _ => h.mem_due (Option.some_ne_none _) }

/-- A step that leaves the identity and the signals alone. -/
theorem of_uses (huses : Cache.Uses cfg run.store later.store)
    (hidentity : later.identity = run.identity) (hsent : later.sent = run.sent)
    (hdue : later.due = run.due) : Progress cfg late run later where
  uses := huses
  path_eq := by rw [hidentity]
  sent_eq := hsent
  mem_due _ h := by
    rw [hidentity] at h
    rw [hdue]
    exact h.elim id fun h => absurd rfl h

/-- A step that does not even use the stores. -/
theorem of_eq (hstore : later.store = run.store) (hidentity : later.identity = run.identity)
    (hsent : later.sent = run.sent) (hdue : later.due = run.due) : Progress cfg late run later :=
  of_uses (by rw [hstore]; exact .refl) hidentity hsent hdue

/-- A step that changes one part of the identity owes the signal of that part. -/
theorem of_part {signal : Signal} (hstore : later.store = run.store)
    (hpath : later.identity.path = run.identity.path) (hsent : later.sent = run.sent)
    (hdue : later.due = run.due)
    (hpart : ∀ other, other ≠ signal → later.identity.part other = run.identity.part other) :
    Progress cfg (some signal) run later where
  uses := by rw [hstore]; exact .refl
  path_eq := hpath
  sent_eq := hsent
  mem_due {other} hlate h := by
    rw [hdue]
    refine h.elim id fun h => absurd (hpart other ?_) h
    exact fun hother => hlate (by rw [hother])

/-- The signal that was owed comes at last. -/
theorem queue {signal : Signal} (h : Progress cfg (some signal) run later) :
    Progress cfg none run (later.queue signal) where
  uses := h.uses
  path_eq := h.path_eq
  sent_eq := h.sent_eq
  mem_due {other} _ hchange := by
    rw [Run.queue, SignalSet.mem_insert]
    by_cases hsignal : other = signal
    · exact .inl hsignal
    · exact .inr (h.mem_due (fun h' => hsignal (Option.some.inj h')) hchange)

end Progress

namespace Run

variable {cfg : Config} {late : Option Signal}

/-! ### Each step is progress -/

theorem progress_note (event : Event) (run : Run σ) : Progress cfg late run (run.note event) :=
  .of_eq rfl rfl rfl rfl

theorem progress_lookup (entry : Cache.Entry) (hkey : entry.key ≠ "") (run : Run σ) :
    Progress cfg late run (run.lookup cfg entry).2 :=
  .of_uses (.lookup entry hkey .refl) rfl rfl rfl

theorem progress_save (entry : Cache.Entry) {text : String} (hkey : entry.key ≠ "")
    (htext : text ≠ "") (run : Run σ) : Progress cfg late run (run.save cfg entry text).2 :=
  .of_uses (.save entry text hkey htext .refl) rfl rfl rfl

theorem progress_refreshPublicName (run : Run σ) : Progress cfg late run run.refreshPublicName := by
  refine Progress.weaken ?_
  simp only [refreshPublicName]
  split
  · exact .refl run
  · refine .queue (.of_part rfl rfl rfl rfl ?_)
    rintro (_ | _ | _) hne
    · rfl
    · rfl
    · exact absurd rfl hne

theorem progress_refreshFallback (modem : Modem) (run : Run σ) :
    Progress cfg late run (run.refreshFallback modem) := by
  simp only [refreshFallback]
  split
  · exact .refl run
  · have hbegin : Progress cfg late run
        { run.note (.fallbackChanged modem.fallbackName) with fallback := modem.fallbackName } :=
      .of_eq rfl rfl rfl rfl
    exact hbegin.trans (progress_refreshPublicName _)

theorem progress_persistImsi (run : Run σ) : Progress cfg late run (run.persistImsi cfg) := by
  unfold persistImsi
  split
  case h_1 iccid imsi _ hiccid himsi =>
    have hsave : Progress cfg late run (run.save cfg (.imsiOf iccid) imsi).2 :=
      progress_save (.imsiOf iccid) (known_eq_some_iff.1 hiccid).2 (known_eq_some_iff.1 himsi).2 run
    dsimp only
    split
    · exact hsave.trans (.of_eq rfl rfl rfl rfl)
    · exact hsave.trans (.of_eq rfl rfl rfl rfl)
  case h_2 => exact .refl run

theorem progress_persistName (run : Run σ) : Progress cfg late run (run.persistName cfg) := by
  unfold persistName
  split
  case h_1 imsi name _ himsi hname =>
    have hsave : Progress cfg late run (run.save cfg (.nameOf imsi) name).2 :=
      progress_save (.nameOf imsi) (known_eq_some_iff.1 himsi).2 (known_eq_some_iff.1 hname).2 run
    dsimp only
    split
    · exact hsave.trans (.of_eq rfl rfl rfl rfl)
    · exact hsave.trans (.of_eq rfl rfl rfl rfl)
  case h_2 => exact .refl run

theorem progress_retryWrites (run : Run σ) : Progress cfg late run (run.retryWrites cfg) := by
  simp only [retryWrites]
  split
  · have hbegin : Progress cfg late run ({ run with writeFailed := false }.note .retrying) :=
      .of_eq rfl rfl rfl rfl
    exact (hbegin.trans (progress_persistImsi _)).trans (progress_persistName _)
  · exact .refl run

theorem progress_adoptName (name : String) (run : Run σ) :
    Progress cfg late run (run.adoptName cfg name) := by
  simp only [adoptName]
  split
  · exact .refl run
  · have hbegin : Progress cfg late run
        { run.note (.nameAdopted name) with cachedName := some name, nameDirty := true } :=
      .of_eq rfl rfl rfl rfl
    exact (hbegin.trans (progress_persistName _)).trans (progress_refreshPublicName _)

theorem progress_adoptCardName (name : String) (run : Run σ) :
    Progress cfg late run (run.adoptCardName cfg name) := by
  simp only [adoptCardName]
  split
  · exact .refl run
  · have hbegin : Progress cfg late run
        { run.note (.cardNameAdopted name) with cardName := some name, nameDirty := true } :=
      .of_eq rfl rfl rfl rfl
    have hadopt := hbegin.trans (progress_adoptName name _)
    exact (hadopt.trans (progress_persistName _)).trans (progress_refreshPublicName _)

theorem progress_adoptHomeOperator (modem : Modem) (run : Run σ) :
    Progress cfg late run (run.adoptHomeOperator cfg modem) := by
  unfold adoptHomeOperator
  split
  · exact .refl run
  · dsimp only
    split
    · exact (progress_note _ run).trans (progress_adoptName _ _)
    · exact progress_note _ run

/-- A new serial number owes its signal. -/
theorem progress_iccid (iccid : Option String) (run : Run σ) :
    Progress cfg (some .iccid) run { run with identity.iccid := iccid } := by
  refine .of_part rfl rfl rfl rfl ?_
  rintro (_ | _ | _) hne
  · exact absurd rfl hne
  · rfl
  · rfl

/-- A new subscription owes its signal. -/
theorem progress_imsi (imsi : Option String) (run : Run σ) :
    Progress cfg (some .imsi) run { run with identity.imsi := imsi } := by
  refine .of_part rfl rfl rfl rfl ?_
  rintro (_ | _ | _) hne
  · rfl
  · exact absurd rfl hne
  · rfl

theorem progress_recallImsi (modem : Modem) {iccid : String} (hiccid : iccid ≠ "") (run : Run σ) :
    Progress cfg late run (run.recallImsi cfg modem iccid) := by
  have hread : Progress cfg late run (run.lookup cfg (.imsiOf iccid)).2 :=
    progress_lookup (.imsiOf iccid) hiccid run
  simp only [recallImsi]
  split
  case h_1 imsi read hlookup =>
    rw [hlookup] at hread
    split
    · exact hread
    · refine hread.trans (.weaken (.queue ?_))
      refine Progress.trans ?_ (progress_refreshFallback modem _)
      refine Progress.trans ?_ (progress_persistImsi _)
      refine Progress.trans ?_ (progress_imsi (some imsi) _)
      refine Progress.trans ?_ (progress_note _ _)
      split
      · exact .of_eq rfl rfl rfl rfl
      · exact .refl read
  case h_2 hlookup =>
    rw [hlookup] at hread
    exact hread

theorem progress_recallName (run : Run σ) : Progress cfg late run (run.recallName cfg) := by
  simp only [recallName]
  split
  · exact .refl run
  case h_2 imsi himsi =>
    have hread : Progress cfg late run (run.lookup cfg (.nameOf imsi)).2 :=
      progress_lookup (.nameOf imsi) (known_eq_some_iff.1 himsi).2 run
    split
    case h_1 name read hlookup =>
      rw [hlookup] at hread
      split
      · exact hread
      · split
        · have hnote : Progress cfg late read
              { read.note (.nameOverruled name imsi) with nameDirty := true } :=
            .of_eq rfl rfl rfl rfl
          exact (hread.trans hnote).trans (progress_persistName _)
        · refine hread.trans ?_
          refine Progress.trans ?_ (progress_refreshPublicName _)
          refine Progress.trans ?_ (progress_persistName _)
          split
          · exact .of_eq rfl rfl rfl rfl
          · exact .of_eq rfl rfl rfl rfl
    case h_2 hlookup =>
      rw [hlookup] at hread
      exact hread

theorem progress_recallCard (modem : Modem) {iccid : String} (hiccid : iccid ≠ "") (run : Run σ) :
    Progress cfg late run (run.recallCard cfg modem iccid) :=
  (progress_recallImsi modem hiccid run).trans (progress_recallName _)

theorem progress_adoptImsi (imsi : String) (run : Run σ) :
    Progress cfg late run (run.adoptImsi cfg imsi) := by
  simp only [adoptImsi]
  split
  · exact .refl run
  · refine .weaken (.queue ?_)
    refine Progress.trans ?_ (progress_persistName _)
    refine Progress.trans ?_ (progress_recallName _)
    refine Progress.trans ?_ (progress_persistImsi _)
    refine Progress.trans (progress_imsi (some imsi) run) ?_
    exact .of_eq rfl rfl rfl rfl

theorem progress_forgetCard (run : Run σ) : Progress cfg late run run.forgetCard := by
  unfold forgetCard
  refine Progress.trans ?_ (progress_refreshPublicName _)
  refine Progress.trans (progress_note .iccidLost run) ?_
  dsimp only
  split
  case isTrue himsi =>
    refine .of_eq rfl ?_ rfl rfl
    rw [← himsi]
  case isFalse =>
    have hlost : Progress cfg none (run.note .iccidLost)
        ({ run.note .iccidLost with identity.imsi := none }.queue .imsi) :=
      (progress_imsi none _).queue
    exact .weaken (hlost.trans (.of_eq rfl rfl rfl rfl))

theorem progress_observeIccid (modem : Modem) (run : Run σ) :
    Progress cfg late run (run.observeIccid cfg modem) := by
  simp only [observeIccid]
  split
  · exact .refl run
  · have hnew : Progress cfg late run
        ({ run with identity.iccid := known modem.iccid }.queue .iccid) :=
      .weaken (progress_iccid (known modem.iccid) run).queue
    split
    case h_1 iccid hiccid =>
      exact hnew.trans (progress_recallCard modem (known_eq_some_iff.1 hiccid).2 _)
    case h_2 => exact hnew.trans (progress_forgetCard _)

theorem progress_observeImsi (modem : Modem) (run : Run σ) :
    Progress cfg late run (run.observeImsi cfg modem) := by
  simp only [observeImsi]
  split
  · exact (progress_adoptImsi _ run).trans (progress_refreshFallback modem _)
  · exact progress_refreshFallback modem run

theorem progress_observeCardName (modem : Modem) (run : Run σ) :
    Progress cfg late run (run.observeCardName cfg modem) := by
  simp only [observeCardName]
  split
  · exact progress_adoptCardName _ run
  · exact .refl run

theorem progress_observeNetwork (modem : Modem) (run : Run σ) :
    Progress cfg late run (run.observeNetwork cfg modem) := by
  simp only [observeNetwork]
  split
  · refine Progress.trans ?_ (progress_adoptHomeOperator modem _)
    split
    · exact .refl run
    · exact .of_eq rfl rfl rfl rfl
  · split
    · exact .of_eq rfl rfl rfl rfl
    · exact .refl run

theorem progress_observeAll (modem : Modem) (run : Run σ) :
    Progress cfg late run (run.observeAll cfg modem) := by
  refine Progress.trans ?_ (progress_adoptHomeOperator modem _)
  refine Progress.trans ?_ (progress_observeCardName modem _)
  refine Progress.trans ?_ (progress_observeImsi modem _)
  refine Progress.trans ?_ (progress_observeNetwork modem _)
  exact progress_observeIccid modem run

theorem progress_observe (modem : Modem) (change : Change) (run : Run σ) :
    Progress cfg late run (run.observe cfg modem change) := by
  cases change with
  | iccid => exact (progress_note _ run).trans (progress_observeIccid modem _)
  | imsi => exact progress_observeImsi modem run
  | spn => exact progress_observeCardName modem run
  | network => exact progress_observeNetwork modem run
  | networkStatus =>
    simp only [observe]
    split
    · exact progress_adoptHomeOperator modem run
    · exact .refl run

/-- **A call is progress and then an announcement.** -/
theorem perform_eq_announce (cfg : Config) (modem : Modem) (call : Call) (run : Run σ) :
    ∃ later, Progress cfg none run later ∧ run.perform cfg modem call = later.announce := by
  cases call with
  | report change =>
    exact ⟨_, (progress_retryWrites run).trans (progress_observe modem change _), rfl⟩
  | resync => exact ⟨_, (progress_retryWrites run).trans (progress_observeAll modem _), rfl⟩

/-- After a call nothing is due. -/
theorem due_perform (cfg : Config) (modem : Modem) (call : Call) (run : Run σ) :
    (run.perform cfg modem call).due = ∅ := by
  obtain ⟨later, -, hperform⟩ := perform_eq_announce cfg modem call run
  rw [hperform]
  rfl

/-- A call uses the store as every step does. -/
theorem uses_perform (cfg : Config) (modem : Modem) (call : Call) (run : Run σ) :
    Cache.Uses cfg run.store (run.perform cfg modem call).store := by
  obtain ⟨later, hlater, hperform⟩ := perform_eq_announce cfg modem call run
  rw [hperform]
  exact hlater.uses

/-- So does a start. -/
theorem uses_start (cfg : Config) (modem : Modem) (store : σ) :
    Cache.Uses cfg store (start cfg modem store).store := by
  have hobserve : Progress cfg none _ (({ identity := { path := modem.path }, store } :
      Run σ).observeAll cfg modem) := progress_observeAll modem _
  simp only [start]
  split
  · exact hobserve.uses
  · exact hobserve.uses

/-- A tracker keeps the modem that it began with. -/
theorem path_performAll (cfg : Config) (calls : List (Modem × Call)) (run : Run σ) :
    (run.performAll cfg calls).identity.path = run.identity.path := by
  induction calls generalizing run with
  | nil => rfl
  | cons head rest ih =>
    obtain ⟨modem, call⟩ := head
    obtain ⟨later, hlater, hperform⟩ := perform_eq_announce cfg modem call run
    rw [performAll_cons, ih, hperform]
    exact hlater.path_eq

theorem path_start (cfg : Config) (modem : Modem) (store : σ) :
    (start cfg modem store).identity.path = modem.path := by
  have hobserve : Progress cfg none _ (({ identity := { path := modem.path }, store } :
      Run σ).observeAll cfg modem) := progress_observeAll modem _
  obtain ⟨_, hstart⟩ := start_touches cfg modem store
  rw [hstart]
  exact hobserve.path_eq

end Run

end SimIdentity
