import SimIdentity.Proofs.Memory
import SimIdentity.Proofs.Work
import SimIdentity.Store.Recorded

/-!
# Failed writes

A tracker remembers whether a write failed, and the next time it is called it tries again. What it
remembers is compared here with two other witnesses.

One is the trail: the mark is set exactly if a write failed there, and has not been tried again
since (`Reachable.writeFailed_iff`). The other one are the stores. If every failure of an access
shows in them (`StringStore.FailureSign`), then a write is only remembered as failed if it shows
(`Reachable.showsFailure`). A memory shows failures by being switched off, and recorded accesses by
the record.
-/

namespace SimIdentity

variable {σ : Type} [StringStore σ]

/-! ### What the trail tells -/

/-- The step was a write, and it failed. -/
def Event.IsFailedWrite : Event → Prop
  | .saved _ _ outcome => outcome.succeeded = false
  | _ => False

/-- A write failed, and failed writes were not tried again since. -/
def WriteFailed (trail : List TrailEntry) : Prop :=
  ∃ before entry after, trail = before ++ entry :: after ∧ entry.event.IsFailedWrite ∧
    ∀ later ∈ after, later.event ≠ .retrying

theorem not_writeFailed_nil : ¬ WriteFailed [] := by
  rintro ⟨before, entry, after, htrail, -⟩
  exact List.append_ne_nil_of_right_ne_nil before (List.cons_ne_nil entry after) htrail.symm

theorem writeFailed_append {trail : List TrailEntry} {entry : TrailEntry} :
    WriteFailed (trail ++ [entry]) ↔
      entry.event.IsFailedWrite ∨ entry.event ≠ .retrying ∧ WriteFailed trail := by
  constructor
  · rintro ⟨before, failed, after, htrail, hfailed, hafter⟩
    -- the write that failed is the last entry, or one before it
    rcases List.eq_nil_or_concat after with rfl | ⟨rest, last, rfl⟩
    · obtain ⟨-, hentry⟩ := List.append_inj' htrail rfl
      cases hentry
      exact .inl hfailed
    · rw [List.concat_eq_append, ← List.cons_append, ← List.append_assoc] at htrail
      obtain ⟨hbefore, hlast⟩ := List.append_inj' htrail rfl
      cases hlast
      rw [List.concat_eq_append] at hafter
      refine .inr ⟨hafter _ (by simp), before, failed, rest, hbefore, hfailed, ?_⟩
      intro later hlater
      exact hafter later (List.mem_append_left _ hlater)
  · rintro (hfailed | ⟨hentry, before, failed, after, rfl, hfailed, hafter⟩)
    · exact ⟨trail, entry, [], rfl, hfailed, fun _ h => absurd h List.not_mem_nil⟩
    · refine ⟨before, failed, after ++ [entry], by simp, hfailed, fun later hlater => ?_⟩
      rcases List.mem_append.1 hlater with hlater | hlater
      · exact hafter later hlater
      · rw [List.mem_singleton.1 hlater]
        exact hentry

theorem writeFailed_append_of_not {trail : List TrailEntry} {entry : TrailEntry}
    (hfailed : ¬ entry.event.IsFailedWrite) (hretrying : entry.event ≠ .retrying) :
    WriteFailed (trail ++ [entry]) ↔ WriteFailed trail := by
  rw [writeFailed_append, or_iff_right hfailed, and_iff_right hretrying]

theorem Event.IsRemark.not_isFailedWrite {event : Event} (h : event.IsRemark) :
    ¬ event.IsFailedWrite := by
  cases event with
  | saved => exact h.elim
  | _ => exact id

theorem Event.IsRemark.ne_retrying {event : Event} (h : event.IsRemark) : event ≠ .retrying := by
  rintro rfl
  exact h

/-- The mark for failed writes says what the trail says. -/
def Run.RemembersFailure (run : Run σ) : Prop := run.writeFailed = true ↔ WriteFailed run.trail

omit [StringStore σ] in
theorem Run.RemembersFailure.note {run : Run σ} (h : run.RemembersFailure) {event : Event}
    (hevent : event.IsRemark) : (run.note event).RemembersFailure :=
  h.trans (writeFailed_append_of_not hevent.not_isFailedWrite hevent.ne_retrying).symm

/-- Whatever becomes of the dirty marks, a failed write has to be remembered, and any other one
changes nothing. -/
theorem Run.Saves.remembersFailure {cfg : Config} {run later : Run σ} (h : run.Saves cfg later)
    (hrun : run.RemembersFailure) : later.RemembersFailure := by
  cases h with
  | none => exact hrun
  | save entry text _ _ hfailed =>
    have hmark : run.writeFailed = true ↔ WriteFailed run.trail := hrun
    unfold RemembersFailure
    dsimp only
    rw [hfailed, Bool.or_eq_true, Bool.not_eq_true', hmark]
    refine Iff.trans ?_ writeFailed_append.symm
    exact or_congr Iff.rfl (and_iff_right fun hretrying => by cases hretrying).symm

theorem Works.remembersFailure {cfg : Config} {run later : Run σ} (h : Works cfg run later)
    (hrun : run.RemembersFailure) : later.RemembersFailure := by
  induction h with
  | refl => exact hrun
  | note event hevent _ ih => exact ih.note hevent
  | learn knowledge hlearns _ ih =>
    unfold Run.RemembersFailure
    rw [hlearns.writeFailed_eq]
    exact ih
  | lookup entry _ _ ih => exact ih.trans (writeFailed_append_of_not id (by simp)).symm
  | persistImsi _ ih => exact (Run.saves_persistImsi cfg _).remembersFailure ih
  | persistName _ ih => exact (Run.saves_persistName cfg _).remembersFailure ih

theorem Run.RemembersFailure.retryWrites {run : Run σ} (h : run.RemembersFailure) (cfg : Config) :
    (run.retryWrites cfg).RemembersFailure := by
  cases hfailed : run.writeFailed with
  | false =>
    rw [retryWrites_of_not_failed hfailed]
    exact h
  | true =>
    refine (works_retryWrites hfailed).remembersFailure (iff_of_false Bool.false_ne_true ?_)
    exact fun h => (writeFailed_append.1 h).elim id fun hretrying => hretrying.1 rfl

/-- **The mark for failed writes is true to the trail**: it is set exactly if a write failed and
has not been tried again since. -/
theorem Reachable.writeFailed_iff {cfg : Config} {run : Run σ} (h : Reachable cfg run) :
    run.writeFailed = true ↔ WriteFailed run.trail := by
  suffices run.RemembersFailure from this
  induction h with
  | start modem store =>
    have hblank : ({ identity := { path := modem.path }, store } : Run σ).RemembersFailure :=
      iff_of_false Bool.false_ne_true not_writeFailed_nil
    have hobserved : (({ identity := { path := modem.path }, store } :
        Run σ).observeAll cfg modem).RemembersFailure :=
      (Works.refl.observeAll modem).remembersFailure hblank
    obtain ⟨_, hstart⟩ := Run.start_touches cfg modem store
    rw [hstart]
    refine Run.RemembersFailure.note ?_ trivial
    exact hobserved
  | @perform run modem call _ ih =>
    obtain ⟨later, hworks, hperform⟩ := Run.perform_works cfg modem call run
    rw [hperform]
    exact hworks.remembersFailure (ih.retryWrites cfg)

/-! ### What the stores show -/

/-- What stores show once an access to them has failed. -/
structure StringStore.FailureSign (shown : σ → Prop) : Prop where
  /-- It shows that a store could not be acquired, -/
  of_acquire (name : StoreName) (store : σ) (error : Error σ) :
    (acquire name store).1 = .error error → shown (acquire name store).2
  /-- and that a handle could not be given back. -/
  of_release (name : StoreName) (handle : Handle σ) (commit : Bool) (store : σ) (error : Error σ) :
    (release name handle commit store).1 = .error error → shown (release name handle commit store).2
  /-- It goes on to show after a store was acquired, -/
  acquire (name : StoreName) (store : σ) : shown store → shown (acquire name store).2
  /-- after a text was read, -/
  read (handle : Handle σ) (field : FieldName) (store : σ) :
    shown store → shown (read handle field store).2
  /-- after one was written, -/
  write (handle : Handle σ) (field : FieldName) (text : String) (store : σ) :
    shown store → shown (write handle field text store).2
  /-- and after a handle was given back. -/
  release (name : StoreName) (handle : Handle σ) (commit : Bool) (store : σ) :
    shown store → shown (release name handle commit store).2

namespace StringStore.FailureSign

variable {shown : σ → Prop} (hsign : FailureSign shown) (cfg : Config) (entry : Cache.Entry)
include hsign

theorem lookup {store : σ} (h : shown store) : shown (Cache.lookup cfg entry store).2 := by
  have hacquired := hsign.acquire (entry.address cfg).store store h
  simp only [Cache.lookup]
  cases hacquire : StringStore.acquire (entry.address cfg).store store with | mk result opened =>
  rw [hacquire] at hacquired
  cases result with
  | error error => exact hacquired
  | ok handle =>
    have hreleased := hsign.release (entry.address cfg).store handle false _
      (hsign.read handle (entry.address cfg).field opened hacquired)
    dsimp only
    split
    · exact hreleased
    · exact hreleased

/-- It shows after a text was saved, if it did before, or if the text could not be saved. -/
theorem save (text : String) {store : σ}
    (h : shown store ∨ (Cache.save cfg entry text store).1.succeeded = false) :
    shown (Cache.save cfg entry text store).2 := by
  have hacquired := hsign.acquire (entry.address cfg).store store
  have hunopened := hsign.of_acquire (entry.address cfg).store store
  revert h
  simp only [Cache.save]
  cases hacquire : StringStore.acquire (entry.address cfg).store store with | mk result opened =>
  rw [hacquire] at hacquired hunopened
  cases result with
  | error error => exact fun _ => hunopened error rfl
  | ok handle =>
    have hread := hsign.read handle (entry.address cfg).field opened
    dsimp only
    generalize StringStore.read handle (entry.address cfg).field opened = found at hread ⊢
    split
    case isTrue =>
      rintro (h | hfailed)
      · exact hsign.release (entry.address cfg).store handle false _ (hread (hacquired h))
      · cases hfailed
    case isFalse =>
      have hwritten := hsign.write handle (entry.address cfg).field text found.2
      generalize StringStore.write handle (entry.address cfg).field text found.2 = written
        at hwritten ⊢
      have hreleased := hsign.release (entry.address cfg).store written.1 true written.2
      have hunkept := hsign.of_release (entry.address cfg).store written.1 true written.2
      cases hrelease : StringStore.release (entry.address cfg).store written.1 true written.2 with
      | mk result closed =>
      rw [hrelease] at hreleased hunkept
      cases result with
      | error error => exact fun _ => hunkept error rfl
      | ok =>
        rintro (h | hfailed)
        · exact hreleased (hwritten (hread (hacquired h)))
        · cases hfailed

end StringStore.FailureSign

/-- If a write is remembered as failed, its failure shows. -/
def Run.ShowsFailure (shown : σ → Prop) (run : Run σ) : Prop :=
  run.writeFailed = true → shown run.store

theorem Run.Saves.showsFailure {cfg : Config} {shown : σ → Prop}
    (hsign : StringStore.FailureSign shown) {run later : Run σ} (h : run.Saves cfg later)
    (hrun : run.ShowsFailure shown) : later.ShowsFailure shown := by
  cases h with
  | none => exact hrun
  | save entry text _ _ hmark =>
    intro hfailed
    refine hsign.save cfg entry text ?_
    have hfailed := hmark.symm.trans hfailed
    rw [Bool.or_eq_true, Bool.not_eq_true'] at hfailed
    exact hfailed.symm.imp_left hrun

theorem Works.showsFailure {cfg : Config} {shown : σ → Prop} (hsign : StringStore.FailureSign shown)
    {run later : Run σ} (h : Works cfg run later) (hrun : run.ShowsFailure shown) :
    later.ShowsFailure shown := by
  induction h with
  | refl => exact hrun
  | note event _ _ ih => exact ih
  | learn knowledge hlearns _ ih =>
    exact fun hfailed => ih (hlearns.writeFailed_eq.symm.trans hfailed)
  | lookup entry _ _ ih => exact fun hfailed => hsign.lookup cfg entry (ih hfailed)
  | persistImsi _ ih => exact (Run.saves_persistImsi cfg _).showsFailure hsign ih
  | persistName _ ih => exact (Run.saves_persistName cfg _).showsFailure hsign ih

/-- A failure that shows goes on to show. -/
theorem Cache.Uses.shown {cfg : Config} {shown : σ → Prop} (hsign : StringStore.FailureSign shown)
    {store later : σ} (h : Cache.Uses cfg store later) (hstore : shown store) : shown later := by
  induction h with
  | refl => exact hstore
  | lookup entry _ _ ih => exact hsign.lookup cfg entry ih
  | save entry text _ _ _ ih => exact hsign.save cfg entry text (.inl ih)

theorem Works.shown {cfg : Config} {shown : σ → Prop} (hsign : StringStore.FailureSign shown)
    {run later : Run σ} (h : Works cfg run later) (hrun : shown run.store) : shown later.store :=
  h.uses.shown hsign hrun

/-- After failed writes were tried again, what is remembered as failed has failed just then. -/
theorem Run.showsFailure_retryWrites {shown : σ → Prop} (hsign : StringStore.FailureSign shown)
    (cfg : Config) (run : Run σ) : (run.retryWrites cfg).ShowsFailure shown := by
  cases hfailed : run.writeFailed with
  | false =>
    rw [retryWrites_of_not_failed hfailed]
    exact fun hfailed' => by rw [hfailed] at hfailed'; cases hfailed'
  | true => exact (works_retryWrites hfailed).showsFailure hsign fun hfailed => by cases hfailed

/-- A write that is remembered as failed shows, over whatever the tracker has begun with. -/
theorem Reachable.showsFailure {cfg : Config} {shown : σ → Prop}
    (hsign : StringStore.FailureSign shown) {run : Run σ} (h : Reachable cfg run) :
    run.ShowsFailure shown := by
  cases h with
  | start modem store =>
    have hblank : ({ identity := { path := modem.path }, store } : Run σ).ShowsFailure shown :=
      fun hfailed => by cases hfailed
    have hworks : Works cfg _ (({ identity := { path := modem.path }, store } :
        Run σ).observeAll cfg modem) := Works.refl.observeAll modem
    obtain ⟨_, hstart⟩ := Run.start_touches cfg modem store
    rw [hstart]
    exact hworks.showsFailure hsign hblank
  | @perform run modem call _ =>
    obtain ⟨later, hworks, hperform⟩ := Run.perform_works cfg modem call run
    rw [hperform]
    exact hworks.showsFailure hsign (Run.showsFailure_retryWrites hsign cfg run)

/-! ### Memories and records -/

/-- A memory shows a failure by being out of reach. -/
theorem VolatileStore.failureSign :
    StringStore.FailureSign fun store : VolatileStore => store.available = false where
  of_acquire name store error herror := by
    dsimp only [StringStore.acquire, VolatileStore.acquire] at herror ⊢
    split at herror
    case isTrue => cases herror
    case isFalse h =>
      rw [if_neg h]
      exact Bool.eq_false_iff.2 h
  of_release name handle commit store error herror := by
    dsimp only [StringStore.release, VolatileStore.release] at herror ⊢
    split at herror
    case isTrue => cases herror
    case isFalse h =>
      split at herror
      case isTrue => cases herror
      case isFalse h' =>
        rw [if_neg h, if_neg h']
        exact Bool.eq_false_iff.2 h'
  acquire name store h := by
    dsimp only [StringStore.acquire, VolatileStore.acquire]
    split
    · exact h
    · exact h
  read handle field store h := h
  write handle field text store h := h
  release name handle commit store h := by
    dsimp only [StringStore.release, VolatileStore.release]
    split
    · exact h
    · split
      · exact h
      · exact h

/-- Over a memory that can be reached, no write is remembered as failed. -/
theorem Reachable.writeFailed_of_available {cfg : Config} {run : Run VolatileStore}
    (h : Reachable cfg run) (havailable : run.store.available = true) :
    run.writeFailed = false := by
  cases hfailed : run.writeFailed with
  | false => rfl
  | true =>
    have hunavailable := h.showsFailure VolatileStore.failureSign hfailed
    rw [havailable] at hunavailable
    cases hunavailable

/-- Whether the access did what was asked for. -/
def Access.succeeded : Access → Bool
  | .acquired _ handle? => handle?.isSome
  | .read _ _ _ => true
  | .wrote _ _ _ => true
  | .released _ _ _ succeeded => succeeded

/-- An access that was recorded has failed. -/
def Recorded.HasFailed (store : Recorded σ) : Prop :=
  ∃ access ∈ store.accesses, access.succeeded = false

namespace Recorded

omit [StringStore σ] in
theorem HasFailed.append {store : Recorded σ} (h : store.HasFailed) (access : Access) (after : σ) :
    (store.append access after).HasFailed := by
  obtain ⟨failed, hmem, hfailed⟩ := h
  refine ⟨failed, ?_, hfailed⟩
  rw [accesses_append]
  exact List.mem_append_left _ hmem

omit [StringStore σ] in
theorem hasFailed_append (store : Recorded σ) {access : Access} (h : access.succeeded = false)
    (after : σ) : (store.append access after).HasFailed := by
  refine ⟨access, ?_, h⟩
  rw [accesses_append]
  exact List.mem_append_right _ (List.mem_singleton.2 rfl)

/-- A record shows that an access failed. -/
theorem failureSign : StringStore.FailureSign (HasFailed : Recorded σ → Prop) where
  of_acquire name store error := by
    dsimp only [StringStore.acquire]
    cases StringStore.acquire name store.inner with | mk result after =>
    cases result with
    | error error => exact fun _ => store.hasFailed_append rfl after
    | ok handle => exact fun herror => by cases herror
  of_release name handle commit store error := by
    dsimp only [StringStore.release]
    cases StringStore.release name handle.handle commit store.inner with | mk result after =>
    cases result with
    | error error => exact fun _ => store.hasFailed_append rfl after
    | ok handle => exact fun herror => by cases herror
  acquire name store h := by
    dsimp only [StringStore.acquire]
    cases StringStore.acquire name store.inner with | mk result after =>
    cases result with
    | error error => exact h.append _ after
    | ok handle => exact h.append _ after
  read handle field store h := h.append _ _
  write handle field text store h := h.append _ _
  release name handle commit store h := h.append _ _

end Recorded

end SimIdentity
