import SimIdentity.Proofs.Access
import SimIdentity.Proofs.Memory
import SimIdentity.Proofs.Work
import SimIdentity.Store.Unreliable
import Mathlib.Data.List.Forall2

/-!
# What a tracker changes in a memory

A commit replaces a whole store by a copy that was taken when the store was acquired. That it
changes one text and no other is thus not a property of the memory, but of whoever uses it: of
what happens to the copy from the moment it is taken to the moment it is given back.

Here a tracker is watched at work over a memory that fails at arbitrary moments, with a record of
every access and of the memory before and after it. `Recorded.Books` compares the record with the
trail. It is kept by each way in which an access of the cache can go (`Books.lookup`,
`Books.save`), and by all the small steps of a tracker's work (`Works.booked`).

## What is proved

`every_commit_updates_one_entry`: what a tracker changes in a memory, from its start on, it changes
by commits that were let through. Each of them puts one text in one place, which is the place of
one entry of the cache, and the text is what is known for this entry at that moment.
-/

namespace SimIdentity

/-! ### Changes of a memory -/

namespace VolatileStore

/-- All texts are where they were, and no commit was counted. -/
structure Unchanged (before after : VolatileStore) : Prop where
  /-- The texts are the same. -/
  get?_eq : ∀ address, after.get? address = before.get? address
  /-- The number of commits is the same. -/
  committed_eq : after.committed = before.committed

/-- One text was put in the place of another one, or of none, and counted as one commit. All other
texts are where they were. -/
structure Updated (address : Address) (text : String) (before after : VolatileStore) : Prop where
  /-- The text is new in its place. -/
  get?_ne : before.get? address ≠ some text
  /-- The text is in its place, and what is elsewhere was there before. -/
  get?_eq : ∀ other, after.get? other = if address = other then some text else before.get? other
  /-- There is one commit more. -/
  committed_eq : after.committed = before.committed + 1

variable {before after store : VolatileStore} {address other : Address} {text : String}

theorem Unchanged.refl (store : VolatileStore) : store.Unchanged store := ⟨fun _ => rfl, rfl⟩

/-- To give back the copy of a store with one more text in it is an update. -/
theorem updated_release_insert (havailable : store.available = true) {handle : Snapshot}
    (hcopy : ∀ field, handle.get? field = store.get? ⟨address.store, field⟩)
    (hne : store.get? address ≠ some text) :
    Updated address text store
      (store.release address.store (handle.insert address.field text) true).2 where
  get?_ne := hne
  get?_eq other := by
    obtain ⟨name, field⟩ := address
    obtain ⟨name', field'⟩ := other
    rw [get?_release_of_available havailable, Snapshot.get?_insert]
    by_cases hname : name = name'
    · subst hname
      simp [hcopy]
    · simp [hname]
  committed_eq := by
    simp only [release]
    rw [if_neg (by simp), if_pos havailable]
    rfl

end VolatileStore

/-! ### One access -/

namespace UnreliableStore

variable {name : StoreName} {store opened seen changed closed : UnreliableStore}
  {handle written : VolatileStore.Snapshot} {field : FieldName}

/-- To acquire a store changes nothing, whether it succeeds or fails. -/
theorem unchanged_of_acquire {result : Except VolatileStore.Error VolatileStore.Snapshot}
    (h : StringStore.acquire name store = (result, opened)) :
    store.memory.Unchanged opened.memory := by
  dsimp only [StringStore.acquire, acquire, VolatileStore.acquire] at h
  split at h
  · split at h
    · cases h
      exact ⟨fun _ => rfl, rfl⟩
    · cases h
      exact .refl _
  · cases h
    exact .refl _

/-- A store that was acquired comes as a copy of what the memory holds. -/
theorem get?_of_acquire (h : StringStore.acquire name store = (.ok handle, opened))
    (field : FieldName) : handle.get? field = store.memory.get? ⟨name, field⟩ := by
  dsimp only [StringStore.acquire, acquire, VolatileStore.acquire] at h
  split at h
  · split at h
    · cases h
      rfl
    · cases h
  · cases h

theorem eq_of_read {found : Option String}
    (h : StringStore.read handle field store = (found, seen)) :
    found = handle.get? field ∧ seen = store := by
  cases h
  exact ⟨rfl, rfl⟩

theorem eq_of_write {text : String}
    (h : StringStore.write handle field text store = (written, changed)) :
    written = handle.insert field text ∧ changed = store := by
  cases h
  exact ⟨rfl, rfl⟩

theorem eq_of_discard {result : Except VolatileStore.Error Unit}
    (h : StringStore.release name handle false store = (result, closed)) : closed = store := by
  cases h
  rfl

/-- To give back the copy of a store with one more text in it is an update, unless it fails. Then
nothing changes. -/
theorem updated_or_unchanged_of_release {address : Address} {text : String}
    {result : Except VolatileStore.Error Unit}
    (h : StringStore.release address.store (handle.insert address.field text) true store =
      (result, closed))
    (hcopy : ∀ field, handle.get? field = store.memory.get? ⟨address.store, field⟩)
    (hne : store.memory.get? address ≠ some text) :
    result.isOk = true ∧ store.memory.Updated address text closed.memory ∨
      result.isOk = false ∧ store.memory.Unchanged closed.memory := by
  obtain rfl : (store.release address.store (handle.insert address.field text) true).1 = result :=
    congrArg Prod.fst h
  obtain rfl : (store.release address.store (handle.insert address.field text) true).2 = closed :=
    congrArg Prod.snd h
  cases hallowed : store.commitPlan.allows with
  | false => exact .inr (by simpa [release, hallowed] using ⟨rfl, .refl _⟩)
  | true =>
    cases havailable : store.memory.available with
    | false =>
      exact .inr (by
        simpa [release, hallowed, VolatileStore.release, havailable] using ⟨rfl, .refl _⟩)
    | true =>
      have hupdated := VolatileStore.updated_release_insert havailable hcopy hne
      have hok : (store.memory.release address.store (handle.insert address.field text) true).1 =
          .ok () := by simp [VolatileStore.release, havailable]
      refine .inl ⟨?_, ?_⟩
      · simp [release, hallowed, hok]
        rfl
      · simpa [release, hallowed] using hupdated

/-- A text that was saved is in its place, and all others are where they were. -/
theorem get?_save (cfg : Config) (entry : Cache.Entry) (text : String) (store : UnreliableStore)
    (address : Address) :
    (Cache.save cfg entry text store).2.memory.get? address =
      if (Cache.save cfg entry text store).1.succeeded ∧ entry.address cfg = address then some text
      else store.memory.get? address := by
  cases hacquire : StringStore.acquire (entry.address cfg).store store with | mk result opened =>
  have hopen := unchanged_of_acquire hacquire
  cases result with
  | error error =>
    rw [Cache.save_of_refused hacquire, if_neg (fun h => Bool.false_ne_true h.1)]
    exact hopen.get?_eq address
  | ok handle =>
    have hcopy := get?_of_acquire hacquire
    have hread : StringStore.read handle (entry.address cfg).field opened =
        (store.memory.get? (entry.address cfg), opened) := by
      rw [← hcopy]
      rfl
    by_cases hheld : store.memory.get? (entry.address cfg) = some text
    · rw [hheld] at hread
      rw [Cache.save_of_held hacquire hread rfl]
      refine (hopen.get?_eq address).trans ?_
      split
      case isTrue h => rw [← h.2, hheld]
      case isFalse => rfl
    · cases hrelease : StringStore.release (entry.address cfg).store
        (handle.insert (entry.address cfg).field text) true opened with | mk result closed =>
      rw [Cache.save_of_not_held hacquire hread hheld rfl hrelease]
      rcases updated_or_unchanged_of_release hrelease
        (fun field => (hcopy field).trans (hopen.get?_eq _).symm)
        (by rw [hopen.get?_eq]; exact hheld) with ⟨hok, hupdated⟩ | ⟨herror, hunchanged⟩
      · have hwritten : Cache.Saving.written.succeeded = true := rfl
        rw [hupdated.get?_eq, hok, hopen.get?_eq, if_pos rfl]
        exact if_congr (and_iff_right hwritten).symm rfl rfl
      · rw [hunchanged.get?_eq, herror, hopen.get?_eq]
        exact (if_neg fun h => Bool.false_ne_true h.1).symm

end UnreliableStore

/-! ### The record and the trail -/

/-- The text is what is known for the entry. -/
def Knowledge.Tells (knowledge : Knowledge) : Cache.Entry → String → Prop
  | .imsiOf iccid, text =>
    known knowledge.identity.iccid = some iccid ∧ known knowledge.identity.imsi = some text
  | .nameOf imsi, text =>
    known knowledge.identity.imsi = some imsi ∧ known knowledge.cachedName = some text

theorem Knowledge.Tells.ne_empty {knowledge : Knowledge} {entry : Cache.Entry} {text : String}
    (h : knowledge.Tells entry text) : text ≠ "" := by
  cases entry with
  | imsiOf iccid => exact (known_eq_some_iff.1 h.2).2
  | nameOf imsi => exact (known_eq_some_iff.1 h.2).2

/-- A handle was given back to be kept, and it was. -/
def Access.commits : Access → Bool
  | .released _ _ true true => true
  | _ => false

/-- A text was saved, and was not there before. -/
def Event.isWrite : Event → Bool
  | .saved _ _ .written => true
  | _ => false

namespace Recorded

/-- The steps lead from the first stores to the last ones, each from where the one before it
ended. -/
def Leads {σ : Type} (first : σ) : List (Step σ) → σ → Prop
  | [], last => first = last
  | step :: rest, last => step.before = first ∧ Leads step.after rest last

theorem Leads.append {σ : Type} {first middle : σ} {steps : List (Step σ)}
    (h : Leads first steps middle) (access : Access) (last : σ) :
    Leads first (steps ++ [⟨access, middle, last⟩]) last := by
  induction steps generalizing first with
  | nil => exact ⟨h.symm, rfl⟩
  | cons step rest ih => exact ⟨h.1, ih h.2⟩

/-- At that moment, the step put what was known for an entry of the cache in its place. -/
def Step.Writes (cfg : Config) (step : Step UnreliableStore) (moment : TrailEntry) : Prop :=
  ∃ entry text, moment.event = .saved entry text .written ∧ moment.context.Tells entry text ∧
    step.before.memory.Updated (entry.address cfg) text step.after.memory

/-- A write deletes nothing. -/
theorem Step.Writes.get?_ne_none {cfg : Config} {step : Step UnreliableStore} {moment : TrailEntry}
    (h : step.Writes cfg moment) (address : Address)
    (hheld : step.before.memory.get? address ≠ none) : step.after.memory.get? address ≠ none := by
  obtain ⟨entry, text, -, -, hupdated⟩ := h
  rw [hupdated.get?_eq]
  split
  · exact Option.some_ne_none text
  · exact hheld

/-- The record accounts for the memory, and the trail for the commits in the record. -/
structure Books (cfg : Config) (first : UnreliableStore) (store : Recorded UnreliableStore)
    (trail : List TrailEntry) : Prop where
  /-- The record has no gap. -/
  leads : Leads first store.steps store.inner
  /-- A step without a commit changes nothing. -/
  unchanged : ∀ step ∈ store.steps, step.access.commits = false →
    step.before.memory.Unchanged step.after.memory
  /-- The commits are the writes of the trail, one by one. -/
  writes : List.Forall₂ (Step.Writes cfg) (store.steps.filter (·.access.commits))
    (trail.filter (·.event.isWrite))

namespace Books

variable {cfg : Config} {first : UnreliableStore} {store later : Recorded UnreliableStore}
  {trail : List TrailEntry} {moment : TrailEntry} {access : Access}

/-- The books stay true when something happens that is no write. -/
theorem remark (h : Books cfg first store trail) (hmoment : moment.event.isWrite = false) :
    Books cfg first store (trail ++ [moment]) where
  leads := h.leads
  unchanged := h.unchanged
  writes := by
    rw [List.filter_append, List.filter_cons_of_neg (by simp [hmoment]), List.filter_nil,
      List.append_nil]
    exact h.writes

/-- The books stay true over an access that changes nothing. -/
theorem quiet (h : Books cfg first store trail) (hcommits : access.commits = false)
    (hsteps : later.steps = store.steps ++ [⟨access, store.inner, later.inner⟩])
    (hunchanged : store.inner.memory.Unchanged later.inner.memory) :
    Books cfg first later trail where
  leads := by
    rw [hsteps]
    exact h.leads.append access later.inner
  unchanged step hstep := by
    rw [hsteps, List.mem_append, List.mem_singleton] at hstep
    rcases hstep with hstep | rfl
    · exact h.unchanged step hstep
    · exact fun _ => hunchanged
  writes := by
    rw [hsteps, List.filter_append, List.filter_cons_of_neg (by simp [hcommits]), List.filter_nil,
      List.append_nil]
    exact h.writes

/-- The books stay true over a commit, if it is the write that is remarked next. -/
theorem commit (h : Books cfg first store trail) (hcommits : access.commits = true)
    (hsteps : later.steps = store.steps ++ [⟨access, store.inner, later.inner⟩])
    (hmoment : moment.event.isWrite = true)
    (hwrites : Step.Writes cfg ⟨access, store.inner, later.inner⟩ moment) :
    Books cfg first later (trail ++ [moment]) where
  leads := by
    rw [hsteps]
    exact h.leads.append access later.inner
  unchanged step hstep := by
    rw [hsteps, List.mem_append, List.mem_singleton] at hstep
    rcases hstep with hstep | rfl
    · exact h.unchanged step hstep
    · exact fun hquiet => by rw [hcommits] at hquiet; cases hquiet
  writes := by
    rw [hsteps, List.filter_append, List.filter_cons_of_pos (by simp [hcommits]), List.filter_nil,
      List.filter_append, List.filter_cons_of_pos (by simp [hmoment]), List.filter_nil]
    exact List.rel_append h.writes (.cons hwrites .nil)

/-- To look an entry up changes nothing. -/
theorem lookup (h : Books cfg first store trail) (entry : Cache.Entry) :
    Books cfg first (Cache.lookup cfg entry store).2 trail := by
  rcases acquire_cases (entry.address cfg).store store with
    ⟨error, opened, hacquire, hinner, hopened, -⟩ | ⟨handle, opened, hacquire, hinner, -, hopened, -⟩
  · rw [Cache.lookup_of_refused hacquire]
    exact h.quiet rfl hopened (UnreliableStore.unchanged_of_acquire hinner)
  · have h := h.quiet rfl hopened (UnreliableStore.unchanged_of_acquire hinner)
    obtain ⟨found, seen, hread, hinner, hseen, -⟩ := read_eq handle (entry.address cfg).field opened
    obtain ⟨-, heq⟩ := UnreliableStore.eq_of_read hinner
    have h := h.quiet rfl hseen (by rw [heq]; exact .refl _)
    obtain ⟨result, closed, hrelease, hinner, hclosed, -⟩ :=
      release_eq (entry.address cfg).store handle false seen
    have heq := UnreliableStore.eq_of_discard hinner
    rw [Cache.lookup_of_acquired hacquire hread hrelease]
    exact h.quiet rfl hclosed (by rw [heq]; exact .refl _)

/-- To save what is known for an entry changes nothing, or it is a write that the books account
for. -/
theorem save (h : Books cfg first store trail) {entry : Cache.Entry} {text : String}
    (hevent : moment.event = .saved entry text (Cache.save cfg entry text store).1)
    (htells : moment.context.Tells entry text) :
    Books cfg first (Cache.save cfg entry text store).2 (trail ++ [moment]) := by
  rcases acquire_cases (entry.address cfg).store store with
    ⟨error, opened, hacquire, hinner, hopened, -⟩ | ⟨handle, opened, hacquire, hinner, -, hopened, -⟩
  · rw [Cache.save_of_refused hacquire] at hevent ⊢
    refine (h.quiet rfl hopened ?_).remark (by rw [hevent]; rfl)
    exact UnreliableStore.unchanged_of_acquire hinner
  · have hopen := UnreliableStore.unchanged_of_acquire hinner
    have hcopy := UnreliableStore.get?_of_acquire hinner
    have h := h.quiet rfl hopened hopen
    obtain ⟨found, seen, hread, hinner, hseen, -⟩ := read_eq handle (entry.address cfg).field opened
    obtain ⟨hget, hsame⟩ := UnreliableStore.eq_of_read hinner
    have h := h.quiet rfl hseen (by rw [hsame]; exact .refl _)
    by_cases hfound : found = some text
    · subst hfound
      obtain ⟨result, closed, hrelease, hinner, hclosed, -⟩ :=
        release_eq (entry.address cfg).store handle false seen
      have hkept := UnreliableStore.eq_of_discard hinner
      rw [Cache.save_of_held hacquire hread hrelease] at hevent ⊢
      refine (h.quiet rfl hclosed ?_).remark (by rw [hevent]; rfl)
      rw [hkept]
      exact .refl _
    · obtain ⟨written, changed, hwrite, hinner, -, hchanged, -⟩ :=
        write_eq handle (entry.address cfg).field text seen
      obtain ⟨hinsert, hsame'⟩ := UnreliableStore.eq_of_write hinner
      have h := h.quiet rfl hchanged (by rw [hsame']; exact .refl _)
      obtain ⟨result, closed, hrelease, hinner, hclosed, -⟩ :=
        release_eq (entry.address cfg).store written true changed
      rw [Cache.save_of_not_held hacquire hread hfound hwrite hrelease] at hevent ⊢
      -- the copy still shows what the memory holds, for nothing changed since it was taken
      have hheld (field : FieldName) : handle.handle.get? field =
          changed.inner.memory.get? ⟨(entry.address cfg).store, field⟩ := by
        rw [hcopy, hsame', hsame, hopen.get?_eq]
      have hne : changed.inner.memory.get? (entry.address cfg) ≠ some text := by
        rw [← hheld, ← hget]
        exact hfound
      rw [hinsert] at hinner
      rcases UnreliableStore.updated_or_unchanged_of_release hinner hheld hne with
        ⟨hok, hupdated⟩ | ⟨herror, hunchanged⟩
      · rw [hok] at hevent hclosed
        exact h.commit rfl hclosed (by rw [hevent]; rfl) ⟨entry, text, hevent, htells, hupdated⟩
      · rw [herror] at hevent hclosed
        exact (h.quiet rfl hclosed hunchanged).remark (by rw [hevent]; rfl)

/-- Nothing that is in the books was ever deleted. -/
theorem get?_ne_none (h : Books cfg first store trail) {step : Step UnreliableStore}
    (hstep : step ∈ store.steps) (address : Address)
    (hheld : step.before.memory.get? address ≠ none) : step.after.memory.get? address ≠ none := by
  cases hcommits : step.access.commits with
  | false =>
    rw [(h.unchanged step hstep hcommits).get?_eq]
    exact hheld
  | true =>
    have hwrites := h.writes.imp fun _ _ hwrites => And.intro hwrites.get?_ne_none hwrites
    have hkept := ((List.forall₂_and_left _ _).1 hwrites).1 step
    exact hkept (List.mem_filter.2 ⟨hstep, hcommits⟩) address hheld

end Books

end Recorded

/-! ### A tracker at work -/

theorem Event.IsRemark.isWrite_eq {event : Event} (h : event.IsRemark) : event.isWrite = false := by
  cases event with
  | saved => exact h.elim
  | _ => rfl

section Saving

variable {σ : Type} [StringStore σ] {cfg : Config}

/-- At most one text was saved, and it is what is known for its entry. -/
inductive Run.SavesKnown (cfg : Config) (run : Run σ) : Run σ → Prop where
  /-- There was nothing to save. -/
  | none : SavesKnown cfg run run
  /-- A text was to be saved. -/
  | save (entry : Cache.Entry) (text : String) (imsiDirty nameDirty writeFailed : Bool) :
      run.Tells entry text →
        SavesKnown cfg run { (run.save cfg entry text).2 with imsiDirty, nameDirty, writeFailed }

theorem Run.savesKnown_persistImsi (cfg : Config) (run : Run σ) :
    run.SavesKnown cfg (run.persistImsi cfg) := by
  simp only [persistImsi]
  split
  case h_1 iccid imsi _ hiccid himsi =>
    have htells : run.Tells (.imsiOf iccid) imsi := ⟨hiccid, himsi⟩
    split
    · exact .save _ _ _ _ _ htells
    · exact .save _ _ _ _ _ htells
  case h_2 => exact .none

theorem Run.savesKnown_persistName (cfg : Config) (run : Run σ) :
    run.SavesKnown cfg (run.persistName cfg) := by
  simp only [persistName]
  split
  case h_1 imsi name _ himsi hname =>
    have htells : run.Tells (.nameOf imsi) name := ⟨himsi, hname⟩
    split
    · exact .save _ _ _ _ _ htells
    · exact .save _ _ _ _ _ htells
  case h_2 => exact .none

end Saving

/-- The record and the trail of the run fit together. -/
def Run.Booked (cfg : Config) (first : UnreliableStore) (run : Run (Recorded UnreliableStore)) :
    Prop :=
  Recorded.Books cfg first run.store run.trail

variable {cfg : Config} {first : UnreliableStore} {run later : Run (Recorded UnreliableStore)}

theorem Run.SavesKnown.booked (h : run.SavesKnown cfg later) (hrun : run.Booked cfg first) :
    later.Booked cfg first := by
  cases h with
  | none => exact hrun
  | save entry text _ _ _ htells => exact Recorded.Books.save hrun rfl htells

theorem Works.booked (h : Works cfg run later) (hrun : run.Booked cfg first) :
    later.Booked cfg first := by
  induction h with
  | refl => exact hrun
  | note event hevent _ ih => exact Recorded.Books.remark ih hevent.isWrite_eq
  | learn knowledge _ _ ih => exact ih
  | lookup entry _ _ ih => exact (Recorded.Books.lookup ih entry).remark rfl
  | persistImsi _ ih => exact (Run.savesKnown_persistImsi cfg _).booked ih
  | persistName _ ih => exact (Run.savesKnown_persistName cfg _).booked ih

theorem Run.Booked.retryWrites (h : run.Booked cfg first) :
    (run.retryWrites cfg).Booked cfg first := by
  cases hfailed : run.writeFailed with
  | false =>
    rw [retryWrites_of_not_failed hfailed]
    exact h
  | true => exact (works_retryWrites hfailed).booked (Recorded.Books.remark h rfl)

theorem Run.Booked.performAll (h : run.Booked cfg first) (calls : List (Modem × Call)) :
    (run.performAll cfg calls).Booked cfg first := by
  induction calls generalizing run with
  | nil => exact h
  | cons head rest ih =>
    obtain ⟨modem, call⟩ := head
    obtain ⟨later, hworks, hperform⟩ := perform_works cfg modem call run
    rw [performAll_cons, hperform]
    exact ih (hworks.booked h.retryWrites)

theorem Run.booked_start (cfg : Config) (modem : Modem) (store : UnreliableStore) :
    (start cfg modem (Recorded.ofStore store)).Booked cfg store := by
  have hblank : ({ identity := { path := modem.path }, store := Recorded.ofStore store } :
      Run (Recorded UnreliableStore)).Booked cfg store :=
    ⟨rfl, fun _ hstep => absurd hstep List.not_mem_nil, .nil⟩
  have hobserved := (Works.refl.observeAll modem).booked hblank
  obtain ⟨_, hstart⟩ := start_touches cfg modem (Recorded.ofStore store)
  rw [hstart]
  exact Recorded.Books.remark hobserved rfl

/-- **Every commit updates one entry.** Over a memory with any texts, that fails whenever it likes,
and for any names in the configuration, the accesses of a tracker lead from the first memory to the
last one without a gap. An access that does not commit, or fails to, changes nothing. Those that do
are, one by one, the writes of the tracker: at each of them, one text is put in the place of one
entry of the cache, which held another one or none, and this costs one commit. It is the text that
the tracker knows for this entry at that moment, and it is not empty. All other texts are where they
were, those for the other entries of either cache among them, and none is ever deleted. -/
theorem every_commit_updates_one_entry (cfg : Config) (modem : Modem) (store : UnreliableStore)
    (calls : List (Modem × Call)) :
    let run := (Run.start cfg modem (Recorded.ofStore store)).performAll cfg calls
    Recorded.Leads store run.store.steps run.store.inner ∧
      (∀ step ∈ run.store.steps, step.access.commits = false →
        step.before.memory.Unchanged step.after.memory) ∧
      List.Forall₂
        (fun step moment => ∃ entry text, moment.event = .saved entry text .written ∧
          moment.context.Tells entry text ∧ text ≠ "" ∧
          step.before.memory.Updated (entry.address cfg) text step.after.memory ∧
          ∀ other, other ≠ entry →
            step.after.memory.cached cfg other = step.before.memory.cached cfg other)
        (run.store.steps.filter (·.access.commits)) (run.trail.filter (·.event.isWrite)) ∧
      ∀ step ∈ run.store.steps, ∀ address,
        step.before.memory.get? address ≠ none → step.after.memory.get? address ≠ none := by
  intro run
  have hbooks : Recorded.Books cfg store run.store run.trail :=
    (Run.booked_start cfg modem store).performAll calls
  refine ⟨hbooks.leads, hbooks.unchanged, hbooks.writes.imp ?_,
    fun step hstep => hbooks.get?_ne_none hstep⟩
  rintro step moment ⟨entry, text, hevent, htells, hupdated⟩
  refine ⟨entry, text, hevent, htells, htells.ne_empty, hupdated, fun other hother => ?_⟩
  have haddress : entry.address cfg ≠ other.address cfg :=
    fun haddress => hother (Cache.Entry.address_inj.1 haddress).symm
  simp only [VolatileStore.cached]
  rw [hupdated.get?_eq, if_neg haddress]

/-- At home, with all names in the configuration empty and the first commit refused, the name of the
operator is written, and then the name on the card. -/
example :
    let cfg : Config :=
      { nameStore := "", nameGroup := "", nameField := "", imsiStore := "", imsiGroup := "" }
    let store : UnreliableStore := { commitPlan := [false] }
    let run := Run.start cfg Modem.atHome (Recorded.ofStore store)
    (run.trail.filter (·.event.isWrite)).map (·.event) =
        [.saved (.nameOf "00101") "Home" .written, .saved (.nameOf "00101") "Card" .written] ∧
      (run.store.steps.filter (·.access.commits)).length = 2 := by
  decide +kernel

end SimIdentity
