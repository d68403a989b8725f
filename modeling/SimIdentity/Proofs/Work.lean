import SimIdentity.Proofs.Progress

/-!
# What a call consists of

Everything a tracker does between two announcements is made up of a few small steps: to remark on
something, to learn something, to look an entry of the cache up, and to save the subscription or
the name if it is dirty. `Works` are the runs that come about by such steps, and for each function
of the tracker there is a lemma that puts it together from them.

A statement about calls that does not depend on which steps are taken, and why, is then proved by
an induction with a case for each kind of step.
-/

namespace SimIdentity

/-- A step that neither belongs to an access to the stores, nor begins a new attempt at one. -/
def Event.IsRemark : Event → Prop
  | .retrying => False
  | .lookedUp _ _ => False
  | .saved _ _ _ => False
  | _ => True

/-- The tracker may know something else of the card, and more may have to be written, but nothing
was. -/
structure Knowledge.Learns (before after : Knowledge) : Prop where
  /-- The subscription stays dirty. -/
  imsiDirty : before.imsiDirty = true → after.imsiDirty = true
  /-- The name stays dirty. -/
  nameDirty : before.nameDirty = true → after.nameDirty = true
  /-- Whether a write failed stays the same. -/
  writeFailed_eq : after.writeFailed = before.writeFailed
  /-- And so does the modem. -/
  path_eq : after.identity.path = before.identity.path

variable {σ : Type} [StringStore σ]

/-- At most one text was saved. A failure is remembered, whatever became of the dirty marks. -/
inductive Run.Saves (cfg : Config) (run : Run σ) : Run σ → Prop where
  /-- There was nothing to save. -/
  | none : Saves cfg run run
  /-- A text was to be saved. -/
  | save (entry : Cache.Entry) (text : String) (imsiDirty nameDirty : Bool) {writeFailed : Bool} :
      writeFailed = (!(run.save cfg entry text).1.succeeded || run.writeFailed) →
        Saves cfg run { (run.save cfg entry text).2 with imsiDirty, nameDirty, writeFailed }

theorem Run.saves_persistImsi (cfg : Config) (run : Run σ) :
    run.Saves cfg (run.persistImsi cfg) := by
  simp only [persistImsi]
  split
  case h_1 iccid imsi _ _ _ =>
    split
    case isTrue h => exact .save (.imsiOf iccid) imsi false run.nameDirty (by rw [h]; rfl)
    case isFalse h =>
      refine .save (.imsiOf iccid) imsi run.imsiDirty run.nameDirty ?_
      rw [Bool.eq_false_iff.2 h]
      rfl
  case h_2 => exact .none

theorem Run.saves_persistName (cfg : Config) (run : Run σ) :
    run.Saves cfg (run.persistName cfg) := by
  simp only [persistName]
  split
  case h_1 imsi name _ _ _ =>
    split
    case isTrue h => exact .save (.nameOf imsi) name run.imsiDirty false (by rw [h]; rfl)
    case isFalse h =>
      refine .save (.nameOf imsi) name run.imsiDirty run.nameDirty ?_
      rw [Bool.eq_false_iff.2 h]
      rfl
  case h_2 => exact .none

/-- The runs that come about by the small steps of a tracker's work. -/
inductive Works (cfg : Config) (run : Run σ) : Run σ → Prop where
  /-- Nothing was done. -/
  | refl : Works cfg run run
  /-- At last something was remarked. -/
  | note {later : Run σ} (event : Event) :
      event.IsRemark → Works cfg run later → Works cfg run (later.note event)
  /-- At last something was learned. -/
  | learn {later : Run σ} (knowledge : Knowledge) :
      later.toKnowledge.Learns knowledge → Works cfg run later →
        Works cfg run { later with toKnowledge := knowledge }
  /-- At last an entry of the cache was looked up. -/
  | lookup {later : Run σ} (entry : Cache.Entry) :
      entry.key ≠ "" → Works cfg run later → Works cfg run (later.lookup cfg entry).2
  /-- At last the subscription was to be saved. -/
  | persistImsi {later : Run σ} : Works cfg run later → Works cfg run (later.persistImsi cfg)
  /-- At last the name was to be saved. -/
  | persistName {later : Run σ} : Works cfg run later → Works cfg run (later.persistName cfg)

namespace Works

variable {cfg : Config} {run later last : Run σ}

theorem trans (h : Works cfg run later) (h' : Works cfg later last) : Works cfg run last := by
  induction h' with
  | refl => exact h
  | note event hevent _ ih => exact ih.note event hevent
  | learn knowledge hlearns _ ih => exact ih.learn knowledge hlearns
  | lookup entry hkey _ ih => exact ih.lookup entry hkey
  | persistImsi _ ih => exact ih.persistImsi
  | persistName _ ih => exact ih.persistName

/-- The stores are only used through the cache. -/
theorem uses (h : Works cfg run later) : Cache.Uses cfg run.store later.store := by
  induction h with
  | refl => exact .refl
  | note event _ _ ih => exact ih
  | learn knowledge _ _ ih => exact ih
  | lookup entry hkey _ ih => exact ih.lookup entry hkey
  | @persistImsi later _ ih =>
    have hpersist : Progress cfg none later (later.persistImsi cfg) :=
      Run.progress_persistImsi later
    exact ih.trans hpersist.uses
  | @persistName later _ ih =>
    have hpersist : Progress cfg none later (later.persistName cfg) :=
      Run.progress_persistName later
    exact ih.trans hpersist.uses

/-! ### The steps of a tracker -/

theorem queue (h : Works cfg run later) (signal : Signal) : Works cfg run (later.queue signal) :=
  h.learn { later.toKnowledge with due := later.due.insert signal } ⟨id, id, rfl, rfl⟩

theorem refreshPublicName (h : Works cfg run later) : Works cfg run later.refreshPublicName := by
  simp only [Run.refreshPublicName]
  split
  · exact h
  · refine queue ?_ .spn
    exact (h.note (.publicNameChanged _) trivial).learn _ ⟨id, id, rfl, rfl⟩

theorem refreshFallback (h : Works cfg run later) (modem : Modem) :
    Works cfg run (later.refreshFallback modem) := by
  simp only [Run.refreshFallback]
  split
  · exact h
  · refine refreshPublicName ?_
    exact (h.note (.fallbackChanged _) trivial).learn _ ⟨id, id, rfl, rfl⟩

theorem adoptName (h : Works cfg run later) (name : String) :
    Works cfg run (later.adoptName cfg name) := by
  simp only [Run.adoptName]
  split
  · exact h
  · refine refreshPublicName (persistName ?_)
    exact (h.note (.nameAdopted name) trivial).learn _ ⟨id, fun _ => rfl, rfl, rfl⟩

theorem adoptCardName (h : Works cfg run later) (name : String) :
    Works cfg run (later.adoptCardName cfg name) := by
  simp only [Run.adoptCardName]
  split
  · exact h
  · refine refreshPublicName (persistName (adoptName ?_ name))
    exact (h.note (.cardNameAdopted name) trivial).learn _ ⟨id, fun _ => rfl, rfl, rfl⟩

theorem adoptHomeOperator (h : Works cfg run later) (modem : Modem) :
    Works cfg run (later.adoptHomeOperator cfg modem) := by
  unfold Run.adoptHomeOperator
  split
  · exact h
  case h_2 name _ =>
    have hnote := h.note (.homeNetwork name) trivial
    dsimp only
    split
    · exact hnote.adoptName name
    · exact hnote

theorem recallImsi (h : Works cfg run later) (modem : Modem) {iccid : String}
    (hiccid : iccid ≠ "") :
    Works cfg run (later.recallImsi cfg modem iccid) := by
  have hread := h.lookup (.imsiOf iccid) hiccid
  simp only [Run.recallImsi]
  split
  case h_1 imsi read hlookup =>
    rw [hlookup] at hread
    split
    · exact hread
    · refine queue (refreshFallback (persistImsi ?_) modem) .imsi
      refine learn _ ⟨id, id, rfl, rfl⟩ (note (.imsiRecalled iccid imsi) trivial ?_)
      split
      · exact (hread.note (.imsiReplaced _ imsi) trivial).learn _ ⟨fun _ => rfl, id, rfl, rfl⟩
      · exact hread
  case h_2 hlookup =>
    rw [hlookup] at hread
    exact hread

theorem recallName (h : Works cfg run later) : Works cfg run (later.recallName cfg) := by
  simp only [Run.recallName]
  split
  · exact h
  case h_2 imsi himsi =>
    have hread := h.lookup (.nameOf imsi) (known_eq_some_iff.1 himsi).2
    split
    case h_1 name read hlookup =>
      rw [hlookup] at hread
      split
      · exact hread
      · split
        · refine persistName ?_
          exact (hread.note (.nameOverruled name imsi) trivial).learn _
            ⟨id, fun _ => rfl, rfl, rfl⟩
        · refine refreshPublicName (persistName ?_)
          refine learn _ ⟨id, id, rfl, rfl⟩ (note (.nameRecalled imsi name) trivial ?_)
          split
          · exact (hread.note (.nameReplaced _ name) trivial).learn _
              ⟨id, fun _ => rfl, rfl, rfl⟩
          · exact hread
    case h_2 hlookup =>
      rw [hlookup] at hread
      exact hread

theorem recallCard (h : Works cfg run later) (modem : Modem) {iccid : String}
    (hiccid : iccid ≠ "") :
    Works cfg run (later.recallCard cfg modem iccid) :=
  (h.recallImsi modem hiccid).recallName

theorem forgetCard (h : Works cfg run later) : Works cfg run later.forgetCard := by
  have hlost := h.note .iccidLost trivial
  simp only [Run.forgetCard]
  refine refreshPublicName ?_
  split
  · exact hlost.learn _ ⟨id, id, rfl, rfl⟩
  · exact (hlost.queue .imsi).learn _ ⟨id, id, rfl, rfl⟩

theorem observeIccid (h : Works cfg run later) (modem : Modem) :
    Works cfg run (later.observeIccid cfg modem) := by
  simp only [Run.observeIccid]
  split
  · exact h
  · have hnew : Works cfg run ({ later with identity.iccid := known modem.iccid }.queue .iccid) :=
      queue (h.learn { later.toKnowledge with identity.iccid := known modem.iccid }
        ⟨id, id, rfl, rfl⟩) .iccid
    split
    case h_1 iccid hiccid => exact hnew.recallCard modem (known_eq_some_iff.1 hiccid).2
    case h_2 => exact hnew.forgetCard

theorem adoptImsi (h : Works cfg run later) (imsi : String) :
    Works cfg run (later.adoptImsi cfg imsi) := by
  simp only [Run.adoptImsi]
  split
  · exact h
  · refine queue (persistName (recallName (persistImsi ?_))) .imsi
    exact (h.note (.imsiAdopted imsi) trivial).learn _ ⟨fun _ => rfl, id, rfl, rfl⟩

theorem observeImsi (h : Works cfg run later) (modem : Modem) :
    Works cfg run (later.observeImsi cfg modem) := by
  simp only [Run.observeImsi]
  refine refreshFallback ?_ modem
  split
  · exact h.adoptImsi _
  · exact h

theorem observeCardName (h : Works cfg run later) (modem : Modem) :
    Works cfg run (later.observeCardName cfg modem) := by
  simp only [Run.observeCardName]
  split
  · exact h.adoptCardName _
  · exact h

theorem observeNetwork (h : Works cfg run later) (modem : Modem) :
    Works cfg run (later.observeNetwork cfg modem) := by
  simp only [Run.observeNetwork]
  split
  · refine adoptHomeOperator ?_ modem
    split
    · exact h
    · exact (h.note .attached trivial).learn _ ⟨id, id, rfl, rfl⟩
  · split
    · exact (h.note .detached trivial).learn _ ⟨id, id, rfl, rfl⟩
    · exact h

theorem observeAll (h : Works cfg run later) (modem : Modem) :
    Works cfg run (later.observeAll cfg modem) :=
  ((((h.observeIccid modem).observeNetwork modem).observeImsi modem).observeCardName
    modem).adoptHomeOperator modem

theorem observe (h : Works cfg run later) (modem : Modem) (change : Change) :
    Works cfg run (later.observe cfg modem change) := by
  cases change with
  | iccid => exact (h.note (.iccidReported modem.iccid) trivial).observeIccid modem
  | imsi => exact h.observeImsi modem
  | spn => exact h.observeCardName modem
  | network => exact h.observeNetwork modem
  | networkStatus =>
    simp only [Run.observe]
    split
    · exact h.adoptHomeOperator modem
    · exact h

end Works

/-! ### Starts and calls -/

namespace Run

variable {cfg : Config}

/-- Trying writes again is to begin a new attempt, and then to work. -/
theorem works_retryWrites {run : Run σ} (h : run.writeFailed = true) :
    Works cfg ({ run with writeFailed := false }.note .retrying) (run.retryWrites cfg) := by
  simp only [retryWrites]
  rw [if_pos h]
  exact Works.refl.persistImsi.persistName

theorem retryWrites_of_not_failed {run : Run σ} (h : run.writeFailed = false) :
    run.retryWrites cfg = run := by
  simp only [retryWrites]
  rw [h]
  exact if_neg Bool.false_ne_true

/-- A call tries failed writes again, works, and announces. -/
theorem perform_works (cfg : Config) (modem : Modem) (call : Call) (run : Run σ) :
    ∃ later, Works cfg (run.retryWrites cfg) later ∧
      run.perform cfg modem call = later.announce := by
  cases call with
  | report change => exact ⟨_, Works.refl.observe modem change, rfl⟩
  | resync => exact ⟨_, Works.refl.observeAll modem, rfl⟩

end Run

end SimIdentity
