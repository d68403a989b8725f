import SimIdentity.Proofs.Update

/-!
# Failed writes are tried again

A write that fails leaves two marks: the cache it was for stays dirty, and it is remembered that a
write failed. The second mark is shared by both caches, and taken back at the start of the next
call. So it has to be shown for each cache, and for each order in which writes fail and succeed,
that neither mark is lost.

`Knowledge.owed?` is what is to be saved in a cache at a given moment. An attempt to save it
(`Run.attempt`) is all that either of the two functions that write ever does, and trying again is to
remark on it and to make both attempts (`retryWrites_eq_attempts`).

## What is proved

`failed_write_is_not_forgotten`: if the last attempt for a cache failed in a call, both marks are
there at its end. The next call begins by saving what is owed, before anything else is asked of the
stores and before anything is learned. The cache of what is saved in that way is clean, and a memory
holds it.
-/

namespace SimIdentity

/-! ### What is owed to the caches -/

namespace Cache

/-- The two caches. -/
inductive Kind where
  /-- The subscriptions, by serial number. -/
  | imsi
  /-- The names, by subscription. -/
  | name
  deriving DecidableEq, Repr

/-- The cache an entry belongs to. -/
def Entry.kind : Entry → Kind
  | imsiOf _ => .imsi
  | nameOf _ => .name

/-- A text was to be saved, and this came of it. -/
structure Attempt where
  /-- The entry the text is for. -/
  entry : Entry
  /-- The text. -/
  text : String
  /-- What came of it. -/
  outcome : Saving
  deriving DecidableEq

/-- What a tracker notes about it. -/
def Attempt.event (attempt : Attempt) : Event :=
  .saved attempt.entry attempt.text attempt.outcome

variable {σ : Type} [StringStore σ]

/-- Saves texts one after the other. -/
def saveAll (cfg : Config) : List (Entry × String) → σ → List Attempt × σ
  | [], store => ([], store)
  | (entry, text) :: rest, store =>
    let (outcome, store) := save cfg entry text store
    let (attempts, store) := saveAll cfg rest store
    ({ entry, text, outcome } :: attempts, store)

theorem saveAll_append (cfg : Config) (texts rest : List (Entry × String)) (store : σ) :
    saveAll cfg (texts ++ rest) store =
      ((saveAll cfg texts store).1 ++ (saveAll cfg rest (saveAll cfg texts store).2).1,
        (saveAll cfg rest (saveAll cfg texts store).2).2) := by
  induction texts generalizing store with
  | nil => rfl
  | cons head texts ih => simp only [List.cons_append, saveAll, ih]

end Cache

namespace Knowledge

/-- Whether something may have to be saved in that cache. -/
def dirty (knowledge : Knowledge) : Cache.Kind → Bool
  | .imsi => knowledge.imsiDirty
  | .name => knowledge.nameDirty

/-- What is to be saved in that cache: the text that is known for the entry, if it is dirty and both
are known. -/
def owed? (knowledge : Knowledge) : Cache.Kind → Option (Cache.Entry × String)
  | .imsi =>
    match knowledge.imsiDirty, known knowledge.identity.iccid, known knowledge.identity.imsi with
    | true, some iccid, some imsi => some (.imsiOf iccid, imsi)
    | _, _, _ => none
  | .name =>
    match knowledge.nameDirty, known knowledge.identity.imsi, known knowledge.cachedName with
    | true, some imsi, some name => some (.nameOf imsi, name)
    | _, _, _ => none

/-- What is known, without the marks for what has to be written. -/
def unmarked (knowledge : Knowledge) : Knowledge :=
  { knowledge with imsiDirty := false, nameDirty := false, writeFailed := false }

/-- What is to be saved in both caches, in this order. -/
def owed (knowledge : Knowledge) : List (Cache.Entry × String) :=
  (knowledge.owed? .imsi).toList ++ (knowledge.owed? .name).toList

theorem kind_of_owed? {knowledge : Knowledge} {kind : Cache.Kind} {entry : Cache.Entry}
    {text : String} (h : knowledge.owed? kind = some (entry, text)) : entry.kind = kind := by
  cases kind with
  | imsi =>
    simp only [owed?] at h
    split at h
    · cases h
      rfl
    · cases h
  | name =>
    simp only [owed?] at h
    split at h
    · cases h
      rfl
    · cases h

theorem dirty_of_owed? {knowledge : Knowledge} {kind : Cache.Kind} {entry : Cache.Entry}
    {text : String} (h : knowledge.owed? kind = some (entry, text)) :
    knowledge.dirty kind = true := by
  cases kind with
  | imsi =>
    simp only [owed?] at h
    split at h
    case h_1 hdirty _ _ => exact hdirty
    case h_2 => cases h
  | name =>
    simp only [owed?] at h
    split at h
    case h_1 hdirty _ _ => exact hdirty
    case h_2 => cases h

theorem owed?_imsi_iff {knowledge : Knowledge} {iccid imsi : String} :
    knowledge.owed? .imsi = some (.imsiOf iccid, imsi) ↔
      knowledge.imsiDirty = true ∧ known knowledge.identity.iccid = some iccid ∧
        known knowledge.identity.imsi = some imsi := by
  simp only [owed?]
  split
  case h_1 hdirty hiccid himsi => simp [hdirty, hiccid, himsi]
  case h_2 hnot =>
    refine iff_of_false (Option.some_ne_none _).symm ?_
    rintro ⟨hdirty, hiccid, himsi⟩
    exact hnot iccid imsi hdirty hiccid himsi

end Knowledge

variable {σ : Type} [StringStore σ] {cfg : Config}

/-! ### An attempt to save what is owed -/

namespace Run

omit [StringStore σ] in
/-- Takes back the mark that something has to be saved in that cache. -/
def clean (kind : Cache.Kind) (run : Run σ) : Run σ :=
  match kind with
  | .imsi => { run with imsiDirty := false }
  | .name => { run with nameDirty := false }

section Clean

omit [StringStore σ]

theorem trail_clean (kind : Cache.Kind) (run : Run σ) : (run.clean kind).trail = run.trail := by
  cases kind <;> rfl

theorem store_clean (kind : Cache.Kind) (run : Run σ) : (run.clean kind).store = run.store := by
  cases kind <;> rfl

theorem writeFailed_clean (kind : Cache.Kind) (run : Run σ) :
    (run.clean kind).writeFailed = run.writeFailed := by
  cases kind <;> rfl

theorem unmarked_clean (kind : Cache.Kind) (run : Run σ) :
    (run.clean kind).unmarked = run.unmarked := by
  cases kind <;> rfl

theorem dirty_clean (kind : Cache.Kind) (run : Run σ) : (run.clean kind).dirty kind = false := by
  cases kind <;> rfl

theorem dirty_clean_of_ne {kind other : Cache.Kind} (h : other ≠ kind) (run : Run σ) :
    (run.clean kind).dirty other = run.dirty other := by
  cases kind <;> cases other <;> first | rfl | exact absurd rfl h

end Clean

/-- Tries to save what is owed to that cache. -/
def attempt (cfg : Config) (kind : Cache.Kind) (run : Run σ) : Run σ :=
  match run.owed? kind with
  | none => run
  | some (entry, text) =>
    if (run.save cfg entry text).1.succeeded then (run.save cfg entry text).2.clean kind
    else { (run.save cfg entry text).2 with writeFailed := true }

theorem persistImsi_eq_attempt (cfg : Config) (run : Run σ) :
    run.persistImsi cfg = run.attempt cfg .imsi := by
  simp only [persistImsi]
  split
  case h_1 iccid imsi hdirty hiccid himsi =>
    simp only [attempt, Knowledge.owed?, hdirty, hiccid, himsi, clean]
  case h_2 hnot =>
    have hnone : run.owed? .imsi = none := by simp only [Knowledge.owed?]
    simp only [attempt, hnone]

theorem persistName_eq_attempt (cfg : Config) (run : Run σ) :
    run.persistName cfg = run.attempt cfg .name := by
  simp only [persistName]
  split
  case h_1 imsi name hdirty himsi hname =>
    simp only [attempt, Knowledge.owed?, hdirty, himsi, hname, clean]
  case h_2 hnot =>
    have hnone : run.owed? .name = none := by simp only [Knowledge.owed?]
    simp only [attempt, hnone]

/-- Trying failed writes again is an attempt for the subscriptions, and then one for the names. -/
theorem retryWrites_eq_attempts {run : Run σ} (h : run.writeFailed = true) :
    run.retryWrites cfg =
      (({ run with writeFailed := false }.note .retrying).attempt cfg .imsi).attempt cfg .name := by
  simp only [retryWrites]
  rw [if_pos h, persistImsi_eq_attempt, persistName_eq_attempt]

/-- Nothing is owed, or it is saved, and its cache is clean then, or it is not, and the failure is
remembered. -/
theorem attempt_cases (cfg : Config) (kind : Cache.Kind) (run : Run σ) :
    (run.owed? kind = none ∧ run.attempt cfg kind = run) ∨
      ∃ entry text outcome store, run.owed? kind = some (entry, text) ∧
        Cache.save cfg entry text run.store = (outcome, store) ∧
        (outcome.succeeded = true ∧ run.attempt cfg kind =
            ({ run with store }.note (.saved entry text outcome)).clean kind ∨
          outcome.succeeded = false ∧ run.attempt cfg kind =
            { { run with store }.note (.saved entry text outcome) with writeFailed := true }) := by
  simp only [attempt]
  cases howed : run.owed? kind with
  | none => exact .inl ⟨rfl, rfl⟩
  | some owed =>
    obtain ⟨entry, text⟩ := owed
    cases hsave : Cache.save cfg entry text run.store with | mk outcome store =>
    refine .inr ⟨entry, text, outcome, store, rfl, hsave, ?_⟩
    simp only [save, hsave]
    cases outcome.succeeded with
    | true => exact .inl ⟨rfl, if_pos rfl⟩
    | false => exact .inr ⟨rfl, if_neg Bool.false_ne_true⟩

end Run

/-! ### Failures are remembered -/

/-- What came of saving an entry of that cache, if the step was about that. -/
def Event.saving? (kind : Cache.Kind) : Event → Option Cache.Saving
  | .saved entry _ outcome => if entry.kind = kind then some outcome else none
  | _ => none

theorem Event.IsRemark.saving?_eq_none {event : Event} (h : event.IsRemark) (kind : Cache.Kind) :
    event.saving? kind = none := by
  cases event with
  | saved => exact h.elim
  | _ => rfl

/-- What came of the last attempt to save an entry of that cache. -/
def lastSaving? (kind : Cache.Kind) (trail : List TrailEntry) : Option Cache.Saving :=
  (trail.filterMap (·.event.saving? kind)).getLast?

section LastSaving

variable {kind : Cache.Kind} {trail : List TrailEntry} {moment : TrailEntry}

theorem lastSaving?_append_of_none (h : moment.event.saving? kind = none) :
    lastSaving? kind (trail ++ [moment]) = lastSaving? kind trail := by
  simp only [lastSaving?, List.filterMap_append, List.filterMap_cons, h, List.filterMap_nil,
    List.append_nil]

theorem lastSaving?_append_of_some {outcome : Cache.Saving}
    (h : moment.event.saving? kind = some outcome) :
    lastSaving? kind (trail ++ [moment]) = some outcome := by
  simp only [lastSaving?, List.filterMap_append, List.filterMap_cons, h, List.filterMap_nil]
  exact List.getLast?_concat

end LastSaving

/-- If the last attempt for a cache failed at these moments, then the cache is dirty, and it is
remembered that a write failed. -/
def Knowledge.RemembersFailures (knowledge : Knowledge) (moments : List TrailEntry) : Prop :=
  ∀ kind outcome, lastSaving? kind moments = some outcome → outcome.succeeded = false →
    knowledge.dirty kind = true ∧ knowledge.writeFailed = true

/-- The run has a trail that begins like that, and remembers the failures in the rest of it. -/
def Run.RemembersFailuresSince (before : List TrailEntry) (run : Run σ) : Prop :=
  ∃ made, run.trail = before ++ made ∧ run.RemembersFailures made

namespace Run.RemembersFailuresSince

variable {before : List TrailEntry} {run later : Run σ}

omit [StringStore σ] in
theorem refl (run : Run σ) : run.RemembersFailuresSince run.trail :=
  ⟨[], (List.append_nil _).symm, fun _ _ hlast => by cases hlast⟩

omit [StringStore σ] in
/-- Whatever is no attempt changes nothing about the last one. -/
theorem note (h : run.RemembersFailuresSince before) {event : Event}
    (hevent : ∀ kind, event.saving? kind = none) :
    (run.note event).RemembersFailuresSince before := by
  obtain ⟨made, htrail, hmade⟩ := h
  refine ⟨made ++ [⟨run.toKnowledge, event⟩], ?_, fun kind outcome hlast hfailed => ?_⟩
  · show run.trail ++ _ = _
    rw [htrail, List.append_assoc]
  · rw [lastSaving?_append_of_none (hevent kind)] at hlast
    exact hmade kind outcome hlast hfailed

omit [StringStore σ] in
/-- What is learned takes no mark back. -/
theorem learn (h : run.RemembersFailuresSince before) {knowledge : Knowledge}
    (hlearns : run.Learns knowledge) :
    { run with toKnowledge := knowledge }.RemembersFailuresSince before := by
  obtain ⟨made, htrail, hmade⟩ := h
  refine ⟨made, htrail, fun kind outcome hlast hfailed => ?_⟩
  obtain ⟨hdirty, hmark⟩ := hmade kind outcome hlast hfailed
  refine ⟨?_, hlearns.writeFailed_eq.trans hmark⟩
  cases kind with
  | imsi => exact hlearns.imsiDirty hdirty
  | name => exact hlearns.nameDirty hdirty

omit [StringStore σ] in
/-- An attempt is the last one for its cache, and leaves the last one for the other cache what it
was. -/
theorem saved (h : run.RemembersFailuresSince before) {moment : TrailEntry} {entry : Cache.Entry}
    {text : String} {outcome : Cache.Saving} (hmoment : moment.event = .saved entry text outcome)
    (htrail : later.trail = run.trail ++ [moment])
    (hfailed : outcome.succeeded = false →
      later.dirty entry.kind = true ∧ later.writeFailed = true)
    (hdirty : ∀ other, other ≠ entry.kind → run.dirty other = true → later.dirty other = true)
    (hmark : run.writeFailed = true → later.writeFailed = true) :
    later.RemembersFailuresSince before := by
  obtain ⟨made, hbefore, hmade⟩ := h
  refine ⟨made ++ [moment], by rw [htrail, hbefore, List.append_assoc], ?_⟩
  intro kind last hlast hlast_failed
  by_cases hkind : entry.kind = kind
  · have hsaving : moment.event.saving? kind = some outcome := by
      rw [hmoment]
      exact if_pos hkind
    rw [lastSaving?_append_of_some hsaving] at hlast
    cases hlast
    rw [← hkind]
    exact hfailed hlast_failed
  · have hsaving : moment.event.saving? kind = none := by
      rw [hmoment]
      exact if_neg hkind
    rw [lastSaving?_append_of_none hsaving] at hlast
    obtain ⟨hdirty', hmark'⟩ := hmade kind last hlast hlast_failed
    exact ⟨hdirty kind (Ne.symm hkind) hdirty', hmark hmark'⟩

/-- An attempt takes back the mark of its own cache only, and only if it succeeds. -/
theorem attempt (h : run.RemembersFailuresSince before) (kind : Cache.Kind) :
    (run.attempt cfg kind).RemembersFailuresSince before := by
  rcases attempt_cases cfg kind run with
    ⟨-, hsame⟩ | ⟨entry, text, outcome, store, howed, -, hattempt⟩
  · rw [hsame]
    exact h
  obtain rfl : entry.kind = kind := Knowledge.kind_of_owed? howed
  have hdirty : run.dirty entry.kind = true := Knowledge.dirty_of_owed? howed
  rcases hattempt with ⟨hsucceeded, hattempt⟩ | ⟨-, hattempt⟩
  · rw [hattempt]
    refine h.saved rfl (trail_clean _ _) (fun hfailed => ?_) (fun other hother hdirty => ?_)
      fun hmark => (writeFailed_clean _ _).trans hmark
    · rw [hsucceeded] at hfailed
      cases hfailed
    · exact (dirty_clean_of_ne hother _).trans hdirty
  · rw [hattempt]
    exact h.saved rfl rfl (fun _ => ⟨hdirty, rfl⟩) (fun _ _ hdirty => hdirty) fun _ => rfl

end Run.RemembersFailuresSince

theorem Works.remembersFailuresSince {before : List TrailEntry} {run later : Run σ}
    (h : Works cfg run later) (hrun : run.RemembersFailuresSince before) :
    later.RemembersFailuresSince before := by
  induction h with
  | refl => exact hrun
  | note event hevent _ ih => exact ih.note hevent.saving?_eq_none
  | learn knowledge hlearns _ ih => exact ih.learn hlearns
  | @lookup later entry _ _ ih => exact ih.note fun _ => rfl
  | persistImsi _ ih =>
    rw [Run.persistImsi_eq_attempt]
    exact ih.attempt .imsi
  | persistName _ ih =>
    rw [Run.persistName_eq_attempt]
    exact ih.attempt .name

namespace Run

/-- Trying again comes before all that a call does. -/
theorem remembersFailuresSince_retryWrites (cfg : Config) (run : Run σ) :
    (run.retryWrites cfg).RemembersFailuresSince run.trail := by
  cases hfailed : run.writeFailed with
  | false =>
    rw [retryWrites_of_not_failed hfailed]
    exact .refl run
  | true =>
    refine (works_retryWrites hfailed).remembersFailuresSince ?_
    exact (RemembersFailuresSince.refl { run with writeFailed := false }).note fun _ => rfl

theorem remembersFailuresSince_perform (cfg : Config) (modem : Modem) (call : Call) (run : Run σ) :
    (run.perform cfg modem call).RemembersFailuresSince run.trail := by
  obtain ⟨later, hworks, hperform⟩ := perform_works cfg modem call run
  rw [hperform]
  exact hworks.remembersFailuresSince (remembersFailuresSince_retryWrites cfg run)

theorem remembersFailuresSince_start (cfg : Config) (modem : Modem) (store : σ) :
    (start cfg modem store).RemembersFailuresSince [] := by
  have hobserved : (({ identity := { path := modem.path }, store } :
      Run σ).observeAll cfg modem).RemembersFailuresSince [] :=
    (Works.refl.observeAll modem).remembersFailuresSince (.refl _)
  obtain ⟨_, hstart⟩ := start_touches cfg modem store
  rw [hstart]
  refine RemembersFailuresSince.note ?_ fun _ => rfl
  exact hobserved

end Run

/-! ### Trying again -/

/-- These texts were saved one after the other, and that is all: what is known is the same but for
the marks, and so it is at every moment in between. A mark is taken back exactly if a text was saved
in its cache, and a failure is remembered. -/
structure Run.SavesAll (cfg : Config) (texts : List (Cache.Entry × String)) (run later : Run σ) :
    Prop where
  /-- The stores are what saving them led to. -/
  store_eq : later.store = (Cache.saveAll cfg texts run.store).2
  /-- The trail tells of each of them. -/
  trail_eq : ∃ made, later.trail = run.trail ++ made ∧
    made.map (·.event) = (Cache.saveAll cfg texts run.store).1.map (·.event) ∧
    ∀ moment ∈ made, moment.context.unmarked = run.unmarked
  /-- What is known is the same. -/
  unmarked_eq : later.unmarked = run.unmarked
  /-- What is dirty stays so unless it was saved. -/
  dirty_eq : ∀ kind, later.dirty kind = (run.dirty kind && !(Cache.saveAll cfg texts run.store).1.any
    fun attempt => attempt.entry.kind = kind && attempt.outcome.succeeded)
  /-- A failure is remembered. -/
  writeFailed_eq : later.writeFailed = (run.writeFailed ||
    (Cache.saveAll cfg texts run.store).1.any fun attempt => !attempt.outcome.succeeded)

namespace Run

variable {texts rest : List (Cache.Entry × String)} {run later last : Run σ}

theorem SavesAll.trans (h : run.SavesAll cfg texts later) (h' : later.SavesAll cfg rest last) :
    run.SavesAll cfg (texts ++ rest) last := by
  have hrest := h'.trail_eq
  have hdirty := h'.dirty_eq
  have hfailed := h'.writeFailed_eq
  have hstore := h'.store_eq
  rw [h.store_eq] at hrest hfailed hstore
  simp only [h.store_eq] at hdirty
  obtain ⟨made, htrail, hmade, hcontext⟩ := h.trail_eq
  obtain ⟨made', htrail', hmade', hcontext'⟩ := hrest
  refine ⟨?_, ⟨made ++ made', ?_, ?_, ?_⟩, ?_, fun kind => ?_, ?_⟩
  · rw [Cache.saveAll_append]
    exact hstore
  · rw [htrail', htrail, List.append_assoc]
  · rw [Cache.saveAll_append, List.map_append, List.map_append, hmade, hmade']
  · intro moment hmoment
    rcases List.mem_append.1 hmoment with hmoment | hmoment
    · exact hcontext moment hmoment
    · exact (hcontext' moment hmoment).trans h.unmarked_eq
  · exact h'.unmarked_eq.trans h.unmarked_eq
  · rw [Cache.saveAll_append, List.any_append, Bool.not_or, ← Bool.and_assoc, ← h.dirty_eq kind]
    exact hdirty kind
  · rw [Cache.saveAll_append, List.any_append, ← Bool.or_assoc, ← h.writeFailed_eq]
    exact hfailed

theorem savesAll_attempt (cfg : Config) (kind : Cache.Kind) (run : Run σ) :
    run.SavesAll cfg (run.owed? kind).toList (run.attempt cfg kind) := by
  rcases attempt_cases cfg kind run with
    ⟨howed, hsame⟩ | ⟨entry, text, outcome, store, howed, hsave, hattempt⟩
  · rw [howed, hsame]
    exact ⟨rfl, ⟨[], (List.append_nil _).symm, rfl, by simp⟩, rfl,
      fun _ => (Bool.and_true _).symm, (Bool.or_false _).symm⟩
  obtain rfl : entry.kind = kind := Knowledge.kind_of_owed? howed
  have hall : Cache.saveAll cfg [(entry, text)] run.store = ([⟨entry, text, outcome⟩], store) := by
    simp only [Cache.saveAll, hsave]
  have hdirty : run.dirty entry.kind = true := Knowledge.dirty_of_owed? howed
  rw [howed, Option.toList_some]
  generalize hsaved : { run with store }.note (.saved entry text outcome) = saved at hattempt
  have htrail : saved.trail = run.trail ++ [⟨run.toKnowledge, .saved entry text outcome⟩] := by
    rw [← hsaved]
    rfl
  have hknown : saved.toKnowledge = run.toKnowledge := by rw [← hsaved]; rfl
  have hstore : saved.store = store := by rw [← hsaved]; rfl
  have hmade : ∃ made, saved.trail = run.trail ++ made ∧
      made.map (·.event) = (Cache.saveAll cfg [(entry, text)] run.store).1.map (·.event) ∧
      ∀ moment ∈ made, moment.context.unmarked = run.unmarked := by
    refine ⟨[⟨run.toKnowledge, .saved entry text outcome⟩], htrail, ?_, by simp⟩
    rw [hall]
    rfl
  rcases hattempt with ⟨hsucceeded, hattempt⟩ | ⟨hfailed, hattempt⟩
  · rw [hattempt]
    refine ⟨?_, ?_, ?_, fun kind => ?_, ?_⟩
    · rw [hall, store_clean, hstore]
    · rw [trail_clean]
      exact hmade
    · rw [unmarked_clean, hknown]
    · rw [hall]
      by_cases hkind : kind = entry.kind
      · subst hkind
        simp [dirty_clean, hsucceeded]
      · simp [dirty_clean_of_ne hkind, Ne.symm hkind, hknown]
    · rw [hall, writeFailed_clean, hknown]
      simp [hsucceeded]
  · rw [hattempt]
    refine ⟨?_, hmade, ?_, fun kind => ?_, ?_⟩
    · rw [hall]
      exact hstore
    · show saved.unmarked = run.unmarked
      rw [hknown]
    · have hsame : { saved with writeFailed := true }.dirty kind = run.dirty kind := by
        rw [← hknown]
        cases kind <;> rfl
      rw [hall, hsame]
      simp [hfailed]
    · rw [hall]
      simp [hfailed]

/-- What is owed to a cache depends on its own mark only. -/
theorem owed?_eq {knowledge other : Knowledge} {kind : Cache.Kind}
    (h : knowledge.unmarked = other.unmarked) (hdirty : knowledge.dirty kind = other.dirty kind) :
    knowledge.owed? kind = other.owed? kind := by
  have hidentity : knowledge.identity = other.identity :=
    (congrArg Knowledge.identity h :)
  have hname : knowledge.cachedName = other.cachedName :=
    (congrArg Knowledge.cachedName h :)
  cases kind with
  | imsi =>
    have hdirty : knowledge.imsiDirty = other.imsiDirty := hdirty
    simp only [Knowledge.owed?, hdirty, hidentity]
  | name =>
    have hdirty : knowledge.nameDirty = other.nameDirty := hdirty
    simp only [Knowledge.owed?, hdirty, hidentity, hname]

/-- After a failure, a call begins by saving all that is owed. -/
theorem savesAll_retryWrites (cfg : Config) {run : Run σ} (h : run.writeFailed = true) :
    ({ run with writeFailed := false }.note .retrying).SavesAll cfg run.owed
      (run.retryWrites cfg) := by
  rw [retryWrites_eq_attempts h]
  generalize hbegun : { run with writeFailed := false }.note .retrying = begun
  have howed (kind : Cache.Kind) : begun.owed? kind = run.owed? kind := by
    subst hbegun
    cases kind <;> rfl
  have hfirst := savesAll_attempt cfg .imsi begun
  have hsecond := savesAll_attempt cfg .name (begun.attempt cfg .imsi)
  have hdirty : (begun.attempt cfg .imsi).dirty .name = begun.dirty .name := by
    rcases attempt_cases cfg .imsi begun with
      ⟨-, hsame⟩ | ⟨entry, text, outcome, store, -, -, ⟨-, hattempt⟩ | ⟨-, hattempt⟩⟩
    · rw [hsame]
    · rw [hattempt]
      rfl
    · rw [hattempt]
      rfl
  rw [owed?_eq hfirst.unmarked_eq hdirty, howed] at hsecond
  rw [howed] at hfirst
  exact hfirst.trans hsecond

end Run

/-! ### What a memory holds then -/

section Held

variable {entry : Cache.Entry} {texts : List (Cache.Entry × String)}

/-- A text that was saved is in its place, and all others are where they were. -/
theorem cached_save_of_unreliable (cfg : Config) (entry other : Cache.Entry) (text : String)
    (store : Recorded UnreliableStore) :
    (Cache.save cfg entry text store).2.inner.memory.cached cfg other =
      if (Cache.save cfg entry text store).1.succeeded ∧ entry = other then some text
      else store.inner.memory.cached cfg other := by
  obtain ⟨houtcome, hinner⟩ := Recorded.save_eq cfg entry text store
  simp only [VolatileStore.cached, hinner, UnreliableStore.get?_save, houtcome,
    Cache.Entry.address_inj]

/-- Saving texts for other entries leaves an entry alone. -/
theorem cached_saveAll_of_ne (store : Recorded UnreliableStore)
    (h : ∀ other ∈ texts, other.1 ≠ entry) :
    (Cache.saveAll cfg texts store).2.inner.memory.cached cfg entry =
      store.inner.memory.cached cfg entry := by
  induction texts generalizing store with
  | nil => rfl
  | cons head rest ih =>
    have hrest : ∀ other ∈ rest, other.1 ≠ entry :=
      fun other hother => h other (List.mem_cons_of_mem _ hother)
    simp only [Cache.saveAll]
    rw [ih _ hrest, cached_save_of_unreliable, if_neg fun hsame => ?_]
    exact h head List.mem_cons_self hsame.2

/-- Of texts for different entries, all that could be saved are in their places at the end. -/
theorem cached_saveAll (store : Recorded UnreliableStore)
    (h : texts.Pairwise fun text other => text.1 ≠ other.1) :
    ∀ attempt ∈ (Cache.saveAll cfg texts store).1, attempt.outcome.succeeded = true →
      (Cache.saveAll cfg texts store).2.inner.memory.cached cfg attempt.entry =
        some attempt.text := by
  induction texts generalizing store with
  | nil => exact fun attempt hattempt => absurd hattempt List.not_mem_nil
  | cons head rest ih =>
    obtain ⟨hhead, hrest⟩ := List.pairwise_cons.1 h
    simp only [Cache.saveAll]
    intro attempt hattempt hsucceeded
    rcases List.mem_cons.1 hattempt with rfl | hattempt
    · rw [cached_saveAll_of_ne _ fun other hother => (hhead other hother).symm,
        cached_save_of_unreliable, if_pos ⟨hsucceeded, rfl⟩]
    · exact ih _ hrest attempt hattempt hsucceeded

end Held

/-- What is owed to the two caches are texts for different entries. -/
theorem Knowledge.pairwise_owed (knowledge : Knowledge) :
    knowledge.owed.Pairwise fun text other => text.1 ≠ other.1 := by
  simp only [owed]
  cases himsi : knowledge.owed? .imsi with
  | none => cases knowledge.owed? .name <;> simp
  | some owed =>
    cases hname : knowledge.owed? .name with
    | none => simp
    | some other =>
      have hkind := kind_of_owed? himsi
      have hother := kind_of_owed? hname
      refine List.pairwise_pair.2 fun hsame => ?_
      rw [hsame, hother] at hkind
      cases hkind

/-! ### First of all -/

/-- The record of the accesses only grows. -/
theorem Cache.Uses.steps_grow {store later : Recorded σ} (h : Uses cfg store later) :
    store.steps <+: later.steps := by
  induction h with
  | refl => exact List.prefix_rfl
  | @lookup middle entry _ _ ih =>
    refine ih.trans ?_
    rcases Recorded.acquire_cases (entry.address cfg).store middle with
      ⟨error, opened, hacquire, -, hopened, -⟩ | ⟨handle, opened, hacquire, -, -, hopened, -⟩
    · rw [lookup_of_refused hacquire]
      exact ⟨_, hopened.symm⟩
    · obtain ⟨found, seen, hread, -, hseen, -⟩ :=
        Recorded.read_eq handle (entry.address cfg).field opened
      obtain ⟨result, closed, hrelease, -, hclosed, -⟩ :=
        Recorded.release_eq (entry.address cfg).store handle false seen
      rw [lookup_of_acquired hacquire hread hrelease, hclosed, hseen, hopened]
      simp only [List.append_assoc, List.prefix_append]
  | @save middle entry text _ _ _ ih =>
    refine ih.trans ?_
    rcases Recorded.acquire_cases (entry.address cfg).store middle with
      ⟨error, opened, hacquire, -, hopened, -⟩ | ⟨handle, opened, hacquire, -, -, hopened, -⟩
    · rw [save_of_refused hacquire]
      exact ⟨_, hopened.symm⟩
    · obtain ⟨found, seen, hread, -, hseen, -⟩ :=
        Recorded.read_eq handle (entry.address cfg).field opened
      by_cases hheld : found = some text
      · subst hheld
        obtain ⟨result, closed, hrelease, -, hclosed, -⟩ :=
          Recorded.release_eq (entry.address cfg).store handle false seen
        rw [save_of_held hacquire hread hrelease, hclosed, hseen, hopened]
        simp only [List.append_assoc, List.prefix_append]
      · obtain ⟨written, changed, hwrite, -, -, hchanged, -⟩ :=
          Recorded.write_eq handle (entry.address cfg).field text seen
        obtain ⟨result, closed, hrelease, -, hclosed, -⟩ :=
          Recorded.release_eq (entry.address cfg).store written true changed
        rw [save_of_not_held hacquire hread hheld hwrite hrelease, hclosed, hchanged, hseen, hopened]
        simp only [List.append_assoc, List.prefix_append]

/-- So does the trail. -/
theorem Works.trail_grows {run later : Run σ} (h : Works cfg run later) :
    run.trail <+: later.trail := by
  induction h with
  | refl => exact List.prefix_rfl
  | note event _ _ ih => exact ih.trans (List.prefix_append _ _)
  | learn knowledge _ _ ih => exact ih
  | lookup entry _ _ ih => exact ih.trans (List.prefix_append _ _)
  | @persistImsi later _ ih =>
    obtain ⟨made, htrail, -⟩ := (Run.savesAll_attempt cfg .imsi later).trail_eq
    rw [Run.persistImsi_eq_attempt, htrail]
    exact ih.trans (List.prefix_append _ _)
  | @persistName later _ ih =>
    obtain ⟨made, htrail, -⟩ := (Run.savesAll_attempt cfg .name later).trail_eq
    rw [Run.persistName_eq_attempt, htrail]
    exact ih.trans (List.prefix_append _ _)

/-- **A failed write is not forgotten.** Over any stores, take the start of a tracker, or any call to
it. If the last attempt for a cache failed there, then afterwards the cache is dirty, and it is
remembered that a write failed. If that is remembered when a call begins, then what is owed to the
caches is saved before anything else that the tracker does, so with all that is known being what it
was. A cache is clean then if its text could be saved. Where the accesses are recorded, these come
before all others. And over a memory with any texts that fails whenever it likes, what could be saved
is in its place. -/
theorem failed_write_is_not_forgotten (σ : Type) [StringStore σ] (cfg : Config) :
    (∀ (modem : Modem) (store : σ),
      let run := Run.start cfg modem store
      run.RemembersFailures run.trail) ∧
    (∀ (run : Run σ) (modem : Modem) (call : Call),
      let retried := run.retryWrites cfg
      let after := run.perform cfg modem call
      (∃ made, after.trail = run.trail ++ made ∧ after.RemembersFailures made) ∧
      (run.writeFailed = true →
        ({ run with writeFailed := false }.note .retrying).SavesAll cfg run.owed retried ∧
        (∀ attempt ∈ (Cache.saveAll cfg run.owed run.store).1, attempt.outcome.succeeded = true →
          retried.dirty attempt.entry.kind = false) ∧
        retried.trail <+: after.trail)) ∧
    (∀ (run : Run (Recorded σ)) (modem : Modem) (call : Call),
      (run.retryWrites cfg).store.steps <+: (run.perform cfg modem call).store.steps) ∧
    ∀ run : Run (Recorded UnreliableStore), run.writeFailed = true →
      ∀ attempt ∈ (Cache.saveAll cfg run.owed run.store).1, attempt.outcome.succeeded = true →
        (run.retryWrites cfg).store.inner.memory.cached cfg attempt.entry = some attempt.text := by
  refine ⟨fun modem store => ?_, fun run modem call => ⟨?_, fun hfailed => ?_⟩,
    fun run modem call => ?_, fun run hfailed attempt hattempt hsucceeded => ?_⟩
  · obtain ⟨made, htrail, hmade⟩ := Run.remembersFailuresSince_start cfg modem store
    rw [List.nil_append] at htrail
    dsimp only
    rw [htrail]
    exact hmade
  · exact Run.remembersFailuresSince_perform cfg modem call run
  · have hretried := Run.savesAll_retryWrites cfg hfailed
    refine ⟨hretried, fun attempt hattempt hsucceeded => ?_, ?_⟩
    · rw [hretried.dirty_eq]
      have hany : (Cache.saveAll cfg run.owed run.store).1.any (fun other =>
          other.entry.kind = attempt.entry.kind && other.outcome.succeeded) = true :=
        List.any_eq_true.2 ⟨attempt, hattempt, by simp [hsucceeded]⟩
      exact (congrArg (_ && !·) hany).trans (Bool.and_false _)
    · obtain ⟨later, hworks, hperform⟩ := Run.perform_works cfg modem call run
      rw [hperform]
      exact hworks.trail_grows
  · obtain ⟨later, hworks, hperform⟩ := Run.perform_works cfg modem call run
    rw [hperform]
    exact hworks.uses.steps_grow
  · rw [(Run.savesAll_retryWrites cfg hfailed).store_eq]
    exact cached_saveAll _ (Knowledge.pairwise_owed _) attempt hattempt hsucceeded

/-- At home, with the first commit refused, the subscription is owed after the start. The next call
saves it first of all, whatever the call is about. -/
theorem refused_subscription_is_saved_at_home :
    let store : UnreliableStore := { commitPlan := [false] }
    let run := Run.start {} Modem.atHome (Recorded.ofStore store)
    let retried := run.retryWrites {}
    let after := run.perform {} Modem.atHome (.report .networkStatus)
    lastSaving? .imsi run.trail = some .uncommitted ∧ run.imsiDirty = true ∧
      run.writeFailed = true ∧ run.owed = [(.imsiOf "8901", "00101")] ∧
      retried.imsiDirty = false ∧ retried.trail <+: after.trail ∧
      retried.store.steps <+: after.store.steps ∧
      retried.store.inner.memory.cached {} (.imsiOf "8901") = some "00101" := by
  intro store run retried after
  have hlast : lastSaving? .imsi run.trail = some .uncommitted := by decide +kernel
  have howed : run.owed = [(.imsiOf "8901", "00101")] := by decide +kernel
  have hsaved : ⟨.imsiOf "8901", "00101", .written⟩ ∈
      (Cache.saveAll {} run.owed run.store).1 := by decide +kernel
  obtain ⟨hstart, hcall, -, -⟩ := failed_write_is_not_forgotten (Recorded UnreliableStore) {}
  obtain ⟨-, -, haccesses, hheld⟩ := failed_write_is_not_forgotten UnreliableStore {}
  obtain ⟨hdirty, hfailed⟩ : run.imsiDirty = true ∧ run.writeFailed = true :=
    hstart Modem.atHome (Recorded.ofStore store) .imsi _ hlast rfl
  clear_value run
  obtain ⟨-, hretry⟩ := hcall run Modem.atHome (.report .networkStatus)
  obtain ⟨-, hclean, htrail⟩ := hretry hfailed
  exact ⟨hlast, hdirty, hfailed, howed, hclean _ hsaved rfl, htrail,
    haccesses run Modem.atHome _, hheld run hfailed _ hsaved rfl⟩

end SimIdentity
