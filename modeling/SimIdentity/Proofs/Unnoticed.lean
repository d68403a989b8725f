import SimIdentity.Proofs.Alike
import SimIdentity.Proofs.Update

/-!
# Failed commits go unnoticed

A commit that fails leaves the cache without a text that the tracker knows. Nothing is said of that
to subscribers, and nothing they are told in the same call depends on it. For this, no entry may be
looked up in a call after it was to be saved in it: whether it is found then depends on whether the
commit went well.

`Twins` are two runs that differ in nothing but what commits have left behind. Their caches agree
but for some entries, which are in doubt. A step that writes keeps them twins if the entry was in
doubt before (`Twins.persistName`), one that reads does so if it was not (`Twins.lookup`).

## What is proved

`failed_commits_go_unnoticed`: if all stores can be acquired, then the commits of a call may succeed
or fail in any pattern, and the call comes to the same. For the two calls that read the serial
number, nothing may be pending, since a write that is tried again comes before what they look up.
-/

namespace SimIdentity

/-- Every store can be acquired, now and later. -/
structure UnreliableStore.Opens (store : UnreliableStore) : Prop where
  /-- The memory can be reached. -/
  available : store.memory.available = true
  /-- The plan lets all attempts through. -/
  allowed : ∀ allowed ∈ store.openPlan, allowed = true

/-- The entries that may be written while the subscription is tracked. -/
def Cache.Entry.IsWritten (imsi : Option String) : Cache.Entry → Prop
  | imsiOf _ => True
  | nameOf other => known imsi = some other

variable {cfg : Config} {entry : Cache.Entry} {text : String}

/-! ### Stores that can be acquired -/

namespace UnreliableStore

variable {name : StoreName} {store opened closed : UnreliableStore}
  {handle : VolatileStore.Snapshot}

theorem Opens.acquire (h : store.Opens) (name : StoreName) :
    ∃ handle opened, StringStore.acquire name store = (.ok handle, opened) ∧ opened.Opens := by
  have hallows : store.openPlan.allows = true := by
    cases hplan : store.openPlan with
    | nil => rfl
    | cons allowed rest => exact h.allowed allowed (by rw [hplan]; exact List.mem_cons_self)
  refine ⟨{ fields := store.memory.fields name }, { store with
    openPlan := store.openPlan.tail
    memory := { store.memory with opened := store.memory.opened + 1 } }, ?_, h.available,
    fun allowed hallowed => h.allowed allowed (List.mem_of_mem_tail hallowed)⟩
  dsimp only [StringStore.acquire, UnreliableStore.acquire, VolatileStore.acquire]
  rw [if_pos hallows, if_pos h.available]

theorem Opens.release (h : store.Opens) (name : StoreName) (handle : VolatileStore.Snapshot) :
    (UnreliableStore.release name handle true store).2.Opens := by
  simp only [UnreliableStore.release, if_true]
  split
  · simp only [VolatileStore.release, if_pos h.available]
    exact ⟨h.available, h.allowed⟩
  · exact ⟨h.available, h.allowed⟩

/-- Looking an entry up tells what the memory holds, and changes nothing there. -/
theorem Opens.lookup (h : store.Opens) (cfg : Config) (entry : Cache.Entry) :
    ∃ closed, Cache.lookup cfg entry store =
        ((store.memory.cached cfg entry).elim .missing .found, closed) ∧
      closed.Opens ∧ ∀ other, closed.memory.cached cfg other = store.memory.cached cfg other := by
  obtain ⟨handle, opened, hacquire, hopened⟩ := h.acquire (entry.address cfg).store
  refine ⟨opened, ?_, hopened, fun other => (unchanged_of_acquire hacquire).get?_eq _⟩
  rw [Cache.lookup_of_acquired hacquire rfl rfl, get?_of_acquire hacquire]
  rfl

theorem Opens.save (h : store.Opens) (cfg : Config) (entry : Cache.Entry) (text : String) :
    (Cache.save cfg entry text store).2.Opens := by
  obtain ⟨handle, opened, hacquire, hopened⟩ := h.acquire (entry.address cfg).store
  by_cases hheld : handle.get? (entry.address cfg).field = some text
  · have hread : StringStore.read handle (entry.address cfg).field opened =
        (some text, opened) := by
      rw [← hheld]
      rfl
    rw [Cache.save_of_held hacquire hread rfl]
    exact hopened
  · rw [Cache.save_of_not_held hacquire rfl hheld rfl rfl]
    exact hopened.release _ _

/-- Saving a text leaves all other entries. -/
theorem cached_save_of_ne {other : Cache.Entry} (h : entry ≠ other) (text : String)
    (store : UnreliableStore) :
    (Cache.save cfg entry text store).2.memory.cached cfg other =
      store.memory.cached cfg other := by
  refine (get?_save cfg entry text store (other.address cfg)).trans (if_neg fun hsaved => h ?_)
  exact Cache.Entry.address_inj.1 hsaved.2

end UnreliableStore

/-! ### Writing -/

/-- Something may have been saved, or have failed to be saved, for the entries in doubt. Nothing
else was done. -/
structure Run.Conceals (cfg : Config) (doubtful : Cache.Entry → Prop)
    (run later : Run UnreliableStore) : Prop where
  /-- What is known of the card is the same, and nothing was sent. -/
  touches : ∃ store trail imsiDirty nameDirty writeFailed,
    later = { run with store, trail, imsiDirty, nameDirty, writeFailed }
  /-- The stores can be acquired as before. -/
  opens : run.store.Opens → later.store.Opens
  /-- The memory holds the same for all entries that are not in doubt. -/
  cached_eq (entry : Cache.Entry) : ¬ doubtful entry →
    later.store.memory.cached cfg entry = run.store.memory.cached cfg entry

namespace Run.Conceals

variable {doubtful : Cache.Entry → Prop} {run later last : Run UnreliableStore}

theorem refl (run : Run UnreliableStore) : run.Conceals cfg doubtful run :=
  ⟨⟨_, _, _, _, _, rfl⟩, id, fun _ _ => rfl⟩

theorem trans (h : run.Conceals cfg doubtful later) (h' : later.Conceals cfg doubtful last) :
    run.Conceals cfg doubtful last := by
  refine ⟨?_, fun hopens => h'.opens (h.opens hopens), fun entry hentry =>
    (h'.cached_eq entry hentry).trans (h.cached_eq entry hentry)⟩
  obtain ⟨_, _, _, _, _, rfl⟩ := h.touches
  obtain ⟨_, _, _, _, _, rfl⟩ := h'.touches
  exact ⟨_, _, _, _, _, rfl⟩

theorem identity_eq (h : run.Conceals cfg doubtful later) : later.identity = run.identity := by
  obtain ⟨_, _, _, _, _, rfl⟩ := h.touches
  rfl

theorem save (hentry : doubtful entry) (text : String) (imsiDirty nameDirty writeFailed : Bool)
    (run : Run UnreliableStore) :
    run.Conceals cfg doubtful
      { (run.save cfg entry text).2 with imsiDirty, nameDirty, writeFailed } where
  touches := ⟨_, _, _, _, _, rfl⟩
  opens h := h.save cfg entry text
  cached_eq other hother := by
    refine UnreliableStore.cached_save_of_ne (fun hsame => hother ?_) text run.store
    rw [← hsame]
    exact hentry

theorem persistImsi (h : ∀ iccid, doubtful (.imsiOf iccid)) (run : Run UnreliableStore) :
    run.Conceals cfg doubtful (run.persistImsi cfg) := by
  simp only [Run.persistImsi]
  split
  case h_1 iccid imsi _ _ _ =>
    split
    · exact save (h iccid) imsi _ _ _ run
    · exact save (h iccid) imsi _ _ _ run
  case h_2 => exact refl run

theorem persistName (h : ∀ imsi, known run.identity.imsi = some imsi → doubtful (.nameOf imsi)) :
    run.Conceals cfg doubtful (run.persistName cfg) := by
  simp only [Run.persistName]
  split
  case h_1 imsi name _ himsi _ =>
    split
    · exact save (h imsi himsi) name _ _ _ run
    · exact save (h imsi himsi) name _ _ _ run
  case h_2 => exact refl run

theorem retrying (run : Run UnreliableStore) :
    run.Conceals cfg doubtful ({ run with writeFailed := false }.note .retrying) :=
  ⟨⟨_, _, _, _, _, rfl⟩, id, fun _ _ => rfl⟩

/-- What is tried again are writes for the card and its subscription. -/
theorem retryWrites (run : Run UnreliableStore) :
    run.Conceals cfg (Cache.Entry.IsWritten run.identity.imsi) (run.retryWrites cfg) := by
  simp only [Run.retryWrites]
  split
  · have hsaved : run.Conceals cfg (Cache.Entry.IsWritten run.identity.imsi)
        (({ run with writeFailed := false }.note .retrying).persistImsi cfg) :=
      (retrying run).trans (persistImsi (fun _ => trivial) _)
    refine hsaved.trans (persistName ?_)
    rw [hsaved.identity_eq]
    exact fun _ himsi => himsi
  · exact refl run

/-- If nothing is pending, there is nothing to be tried again. -/
theorem retryWrites_of_clean (h : run.hasPendingWrites = false) :
    run.Conceals cfg doubtful (run.retryWrites cfg) := by
  obtain ⟨hname, himsi⟩ := Bool.or_eq_false_iff.1 h
  simp only [Run.retryWrites]
  split
  · rw [persistImsi_of_clean (by exact himsi), persistName_of_clean (by exact hname)]
    exact retrying run
  · exact refl run

end Run.Conceals

/-! ### Two runs -/

/-- The runs agree but for what failed commits have left behind, and their caches agree but for the
entries in doubt. -/
structure Twins (cfg : Config) (doubtful : Cache.Entry → Prop) (run other : Run UnreliableStore) :
    Prop where
  /-- They show the same. -/
  identity_eq : run.identity = other.identity
  /-- They know the same name on the card. -/
  cardName_eq : run.cardName = other.cardName
  /-- They know the same name for the cache. -/
  cachedName_eq : run.cachedName = other.cachedName
  /-- They know the same fallback name. -/
  fallback_eq : run.fallback = other.fallback
  /-- They agree on whether a network is attached. -/
  attached_eq : run.attached = other.attached
  /-- They have the same to announce. -/
  due_eq : run.due = other.due
  /-- They have announced the same. -/
  sent_eq : run.sent = other.sent
  /-- The first one can acquire all stores. -/
  opens : run.store.Opens
  /-- So can the second one. -/
  opens_other : other.store.Opens
  /-- The caches hold the same for all entries that are not in doubt. -/
  cached_eq (entry : Cache.Entry) : ¬ doubtful entry →
    run.store.memory.cached cfg entry = other.store.memory.cached cfg entry

namespace Twins

variable {doubtful more : Cache.Entry → Prop} {run other later last : Run UnreliableStore}

theorem weaken (h : Twins cfg doubtful run other) (hmore : ∀ entry, doubtful entry → more entry) :
    Twins cfg more run other :=
  { h with
    cached_eq := fun entry hentry => h.cached_eq entry fun hdoubt => hentry (hmore _ hdoubt) }

theorem note (h : Twins cfg doubtful run other) (event : Event) :
    Twins cfg doubtful (run.note event) (other.note event) :=
  { h with }

theorem queue (h : Twins cfg doubtful run other) (signal : Signal) :
    Twins cfg doubtful (run.queue signal) (other.queue signal) :=
  { h with due_eq := congrArg (·.insert signal) h.due_eq }

theorem refreshPublicName (h : Twins cfg doubtful run other) :
    Twins cfg doubtful run.refreshPublicName other.refreshPublicName := by
  simp only [Run.refreshPublicName]
  rw [h.identity_eq, h.cardName_eq, h.cachedName_eq, h.fallback_eq]
  split
  · exact h
  · refine queue ?_ .spn
    exact { h with identity_eq := by simp only [Run.note, h.identity_eq] }

theorem refreshFallback (h : Twins cfg doubtful run other) (modem : Modem) :
    Twins cfg doubtful (run.refreshFallback modem) (other.refreshFallback modem) := by
  simp only [Run.refreshFallback]
  rw [h.fallback_eq]
  split
  · exact h
  · refine refreshPublicName ?_
    exact { h with fallback_eq := rfl }

/-- What either of them saves, or fails to save, was in doubt before. -/
theorem conceal (h : Twins cfg doubtful run other) (hrun : run.Conceals cfg doubtful later)
    (hother : other.Conceals cfg doubtful last) : Twins cfg doubtful later last := by
  have hcached (entry : Cache.Entry) (hentry : ¬ doubtful entry) :
      later.store.memory.cached cfg entry = last.store.memory.cached cfg entry := by
    rw [hrun.cached_eq entry hentry, h.cached_eq entry hentry, hother.cached_eq entry hentry]
  have hopens := hrun.opens h.opens
  have hopens' := hother.opens h.opens_other
  obtain ⟨_, _, _, _, _, rfl⟩ := hrun.touches
  obtain ⟨_, _, _, _, _, rfl⟩ := hother.touches
  exact { h with opens := hopens, opens_other := hopens', cached_eq := hcached }

/-! ### Names -/

section Named

-- the name that has to be saved is that of the subscription which is tracked
variable (h : Twins cfg doubtful run other)
  (hname : ∀ imsi, known run.identity.imsi = some imsi → doubtful (.nameOf imsi))
include h hname

theorem persistName : Twins cfg doubtful (run.persistName cfg) (other.persistName cfg) := by
  refine h.conceal (.persistName hname) (.persistName ?_)
  rw [← h.identity_eq]
  exact hname

theorem adoptName (name : String) :
    Twins cfg doubtful (run.adoptName cfg name) (other.adoptName cfg name) := by
  simp only [Run.adoptName]
  rw [h.cachedName_eq]
  split
  · exact h
  · refine refreshPublicName (persistName ?_ hname)
    exact { h with cachedName_eq := rfl }

theorem adoptCardName (name : String) :
    Twins cfg doubtful (run.adoptCardName cfg name) (other.adoptCardName cfg name) := by
  simp only [Run.adoptCardName]
  rw [h.cardName_eq]
  split
  · exact h
  · refine refreshPublicName (persistName (adoptName ?_ ?_ name) fun imsi himsi => hname imsi ?_)
    · exact { h with cardName_eq := rfl }
    · exact hname
    · obtain ⟨_, _, _, _, _, _, hadopt⟩ := Run.adoptName_touches cfg name
        ({ run.note (.cardNameAdopted name) with cardName := some name, nameDirty := true } :
          Run UnreliableStore)
      rw [hadopt] at himsi
      exact himsi

theorem adoptHomeOperator (modem : Modem) :
    Twins cfg doubtful (run.adoptHomeOperator cfg modem) (other.adoptHomeOperator cfg modem) := by
  simp only [Run.adoptHomeOperator]
  cases modem.homeOperator? with
  | none => exact h
  | some name =>
    show Twins cfg doubtful (if known run.cardName = none then _ else _)
      (if known other.cardName = none then _ else _)
    rw [h.cardName_eq]
    split
    · exact (h.note _).adoptName hname name
    · exact h.note _

theorem observeCardName (modem : Modem) :
    Twins cfg doubtful (run.observeCardName cfg modem) (other.observeCardName cfg modem) := by
  simp only [Run.observeCardName]
  cases known modem.spn with
  | none => exact h
  | some name => exact h.adoptCardName hname name

theorem observeNetwork (modem : Modem) :
    Twins cfg doubtful (run.observeNetwork cfg modem) (other.observeNetwork cfg modem) := by
  obtain ⟨_, hrun⟩ := Run.observeNetwork_eq_adoptHomeOperator cfg modem run
  obtain ⟨_, hother⟩ := Run.observeNetwork_eq_adoptHomeOperator cfg modem other
  rw [hrun, hother]
  refine adoptHomeOperator ?_ ?_ modem
  · exact { h with attached_eq := rfl }
  · exact hname

end Named

/-! ### Reading -/

/-- What is not in doubt is found in both caches, or in none. -/
theorem lookup (h : Twins cfg doubtful run other) (hentry : ¬ doubtful entry) :
    ∃ outcome read seen, run.lookup cfg entry = (outcome, read) ∧
      other.lookup cfg entry = (outcome, seen) ∧ Twins cfg doubtful read seen ∧
      read.identity = run.identity := by
  obtain ⟨store, hrun, hopens, hcached⟩ := h.opens.lookup cfg entry
  obtain ⟨store', hother, hopens', hcached'⟩ := h.opens_other.lookup cfg entry
  rw [← h.cached_eq entry hentry] at hother
  simp only [Run.lookup]
  rw [hrun, hother]
  refine ⟨_, _, _, rfl, rfl, ?_, rfl⟩
  exact { h with
    opens := hopens
    opens_other := hopens'
    cached_eq := fun entry hentry => by
      show store.memory.cached cfg entry = store'.memory.cached cfg entry
      rw [hcached, hcached', h.cached_eq entry hentry] }

section Recalled

variable (h : Twins cfg doubtful run other) (hmore : ∀ entry, doubtful entry → more entry)
include h hmore

theorem recallName
    (hcertain : ∀ imsi, known run.identity.imsi = some imsi → ¬ doubtful (.nameOf imsi))
    (hname : ∀ imsi, known run.identity.imsi = some imsi → more (.nameOf imsi)) :
    Twins cfg more (run.recallName cfg) (other.recallName cfg) := by
  simp only [Run.recallName]
  rw [← h.identity_eq]
  cases himsi : known run.identity.imsi with
  | none => exact h.weaken hmore
  | some imsi =>
    obtain ⟨outcome, read, seen, hrun, hother, hread, hidentity⟩ := h.lookup (hcertain imsi himsi)
    replace hread := hread.weaken hmore
    rw [← hidentity] at hname
    dsimp only
    rw [hrun, hother]
    cases outcome with
    | missing => exact hread
    | unreadable => exact hread
    | found name =>
      dsimp only
      rw [hread.cachedName_eq, hread.cardName_eq]
      split
      · exact hread
      · split
        · exact persistName { hread with } hname
        · refine refreshPublicName (persistName ?_ ?_)
          · split
            · exact { hread with cachedName_eq := rfl }
            · exact { hread with cachedName_eq := rfl }
          · split
            · exact hname
            · exact hname

theorem recallImsi {iccid : String} (hcertain : ¬ doubtful (.imsiOf iccid))
    (himsi : ∀ iccid, more (.imsiOf iccid)) (modem : Modem) :
    Twins cfg more (run.recallImsi cfg modem iccid) (other.recallImsi cfg modem iccid) := by
  obtain ⟨outcome, read, seen, hrun, hother, hread, -⟩ := h.lookup hcertain
  replace hread := hread.weaken hmore
  simp only [Run.recallImsi]
  rw [hrun, hother]
  cases outcome with
  | missing => exact hread
  | unreadable => exact hread
  | found told =>
    dsimp only
    rw [hread.identity_eq]
    split
    · exact hread
    · refine queue (refreshFallback ?_ modem) .imsi
      refine conceal ?_ (.persistImsi himsi _) (.persistImsi himsi _)
      split
      · exact { hread with identity_eq := by simp only [Run.note, hread.identity_eq] }
      · exact { hread with identity_eq := by simp only [Run.note, hread.identity_eq] }

end Recalled

/-! ### Observing the modem -/

theorem forgetCard (h : Twins cfg doubtful run other) :
    Twins cfg doubtful run.forgetCard other.forgetCard := by
  simp only [Run.forgetCard]
  have hlost : Twins cfg doubtful
      (if run.identity.imsi = none then run.note .iccidLost
        else (run.note .iccidLost).queue .imsi)
      (if other.identity.imsi = none then other.note .iccidLost
        else (other.note .iccidLost).queue .imsi) := by
    rw [h.identity_eq]
    split
    · exact h.note _
    · exact (h.note _).queue .imsi
  refine refreshPublicName ?_
  exact { hlost with
    identity_eq := congrArg (fun identity => { identity with imsi := none }) hlost.identity_eq
    cardName_eq := rfl
    cachedName_eq := rfl
    fallback_eq := rfl }

/-- What is found for a card is what was there before. Afterwards it is in doubt what could be saved
of the card and its subscription. -/
theorem recallCard (h : Twins cfg (fun _ => False) run other) (modem : Modem) (iccid : String) :
    Twins cfg (Cache.Entry.IsWritten (run.recallCard cfg modem iccid).identity.imsi)
      (run.recallCard cfg modem iccid) (other.recallCard cfg modem iccid) := by
  have hrecalled : Twins cfg (Cache.Entry.IsWritten none) (run.recallImsi cfg modem iccid)
      (other.recallImsi cfg modem iccid) :=
    h.recallImsi (fun _ => False.elim) id (fun _ => trivial) modem
  have hnone (imsi : String) : ¬ Cache.Entry.IsWritten none (.nameOf imsi) :=
    (Option.some_ne_none imsi).symm
  simp only [Run.recallCard]
  rw [(Run.recallName_touches cfg (run.recallImsi cfg modem iccid)).imsi_eq]
  refine hrecalled.recallName (fun entry hentry => ?_) (fun imsi _ => hnone imsi)
    fun _ himsi => himsi
  cases entry with
  | imsiOf iccid => trivial
  | nameOf imsi => exact absurd hentry (hnone imsi)

theorem observeIccid (h : Twins cfg (fun _ => False) run other) (modem : Modem) :
    Twins cfg (Cache.Entry.IsWritten (run.observeIccid cfg modem).identity.imsi)
      (run.observeIccid cfg modem) (other.observeIccid cfg modem) := by
  simp only [Run.observeIccid]
  rw [← h.identity_eq]
  split
  · exact h.weaken fun _ => False.elim
  · have hshown : Twins cfg (fun _ => False)
        ({ run with identity.iccid := known modem.iccid }.queue .iccid)
        ({ other with identity := { run.identity with iccid := known modem.iccid } }.queue
          .iccid) := by
      refine queue ?_ .iccid
      exact { h with identity_eq := rfl }
    split
    case h_1 iccid _ => exact hshown.recallCard modem iccid
    case h_2 => exact hshown.forgetCard.weaken fun _ => False.elim

/-- A subscription that is taken over brings the name along that is found for it. So far it was the
name of another subscription that could have been saved. -/
theorem adoptImsi (h : Twins cfg (Cache.Entry.IsWritten run.identity.imsi) run other)
    {imsi : String} (hne : imsi ≠ "") :
    Twins cfg (fun _ => True) (run.adoptImsi cfg imsi) (other.adoptImsi cfg imsi) := by
  simp only [Run.adoptImsi]
  rw [← h.identity_eq]
  split
  case isTrue => exact h.weaken fun _ _ => trivial
  case isFalse hnew =>
    have hadopted : Twins cfg (Cache.Entry.IsWritten run.identity.imsi)
        ({ run.note (.imsiAdopted imsi) with
          identity.imsi := some imsi, imsiDirty := true } : Run UnreliableStore)
        ({ other.note (.imsiAdopted imsi) with
          identity.imsi := some imsi, imsiDirty := true } : Run UnreliableStore) :=
      { h with identity_eq := by simp only [Run.note, h.identity_eq] }
    have hsave := @Run.Conceals.persistImsi cfg (Cache.Entry.IsWritten run.identity.imsi)
      fun _ => trivial
    have hsaved := hadopted.conceal (hsave _) (hsave _)
    refine queue (persistName (hsaved.recallName (fun _ _ => trivial) ?_ fun _ _ => trivial)
      fun _ _ => trivial) .imsi
    rw [(hsave _).identity_eq]
    intro found hfound hwritten
    obtain rfl := Option.some.inj ((known_some hne).symm.trans hfound)
    exact hnew (known_eq_some_iff.1 hwritten).1

theorem observeImsi (h : Twins cfg (Cache.Entry.IsWritten run.identity.imsi) run other)
    (modem : Modem) :
    Twins cfg (fun _ => True) (run.observeImsi cfg modem) (other.observeImsi cfg modem) := by
  simp only [Run.observeImsi]
  refine refreshFallback ?_ modem
  cases himsi : known modem.imsi with
  | none => exact h.weaken fun _ _ => trivial
  | some imsi => exact h.adoptImsi (known_eq_some_iff.1 himsi).2

theorem observeAll (h : Twins cfg (fun _ => False) run other) (modem : Modem) :
    Twins cfg (fun _ => True) (run.observeAll cfg modem) (other.observeAll cfg modem) := by
  have hiccid := h.observeIccid modem
  have hnetwork := hiccid.observeNetwork (fun _ himsi => himsi) modem
  rw [← (Run.observeNetwork_touches cfg modem (run.observeIccid cfg modem)).imsi_eq] at hnetwork
  exact ((hnetwork.observeImsi modem).observeCardName (fun _ _ => trivial) modem).adoptHomeOperator
    (fun _ _ => trivial) modem

theorem announce (h : Twins cfg doubtful run other) :
    Twins cfg doubtful run.announce other.announce :=
  { h with
    due_eq := rfl
    sent_eq := by simp only [Run.announce, h.due_eq, h.identity_eq, h.sent_eq] }

/-! ### Answering a call -/

theorem retryWrites (h : Twins cfg (fun _ => False) run other) :
    Twins cfg (Cache.Entry.IsWritten (run.retryWrites cfg).identity.imsi)
      (run.retryWrites cfg) (other.retryWrites cfg) := by
  have hrun := @Run.Conceals.retryWrites cfg run
  have hother := @Run.Conceals.retryWrites cfg other
  rw [← h.identity_eq] at hother
  rw [hrun.identity_eq]
  exact (h.weaken fun _ => False.elim).conceal hrun hother

/-- What commits have left behind makes no difference to a call. If the call reads the serial
number, nothing may be pending before it. -/
theorem perform (h : Twins cfg (fun _ => False) run other) (modem : Modem) {call : Call}
    (hclean : call = .report .iccid ∨ call = .resync →
      run.hasPendingWrites = false ∧ other.hasPendingWrites = false) :
    Twins cfg (fun _ => True) (run.perform cfg modem call) (other.perform cfg modem call) := by
  have hclear (hclean : run.hasPendingWrites = false ∧ other.hasPendingWrites = false) :
      Twins cfg (fun _ => False) (run.retryWrites cfg) (other.retryWrites cfg) :=
    h.conceal (.retryWrites_of_clean hclean.1) (.retryWrites_of_clean hclean.2)
  have hretried : Twins cfg (fun _ => True) (run.retryWrites cfg) (other.retryWrites cfg) :=
    h.retryWrites.weaken fun _ _ => trivial
  cases call with
  | resync => exact ((hclear (hclean (.inr rfl))).observeAll modem).announce
  | report change =>
    refine announce ?_
    cases change with
    | iccid =>
      have hfound := ((hclear (hclean (.inl rfl))).note
        (.iccidReported modem.iccid)).observeIccid modem
      exact hfound.weaken fun _ _ => trivial
    | imsi => exact h.retryWrites.observeImsi modem
    | spn => exact hretried.observeCardName (fun _ _ => trivial) modem
    | network => exact hretried.observeNetwork (fun _ _ => trivial) modem
    | networkStatus =>
      simp only [Run.observe]
      rw [hretried.attached_eq]
      split
      · exact hretried.adoptHomeOperator (fun _ _ => trivial) modem
      · exact hretried

end Twins

/-! ### Commits that fail -/

/-- The run, if its commits go by the plan from now on. -/
def Run.committing (plan : Plan) (run : Run UnreliableStore) : Run UnreliableStore :=
  { run with store.commitPlan := plan }

/-- **Failed commits go unnoticed.** Let a call be answered twice from the same state, over stores
that can all be acquired, with commits that succeed or fail in two ways. If the call reads the
serial number, let nothing be pending before it. Then the same is announced both times, and the same
is known of the card in the end. -/
theorem failed_commits_go_unnoticed (cfg : Config) (modem : Modem) {call : Call}
    {run : Run UnreliableStore} (hopens : run.store.Opens)
    (hclean : call = .report .iccid ∨ call = .resync → run.hasPendingWrites = false)
    (plan other : Plan) :
    let first := (run.committing plan).perform cfg modem call
    let second := (run.committing other).perform cfg modem call
    second.sent = first.sent ∧ second.identity = first.identity ∧
      second.cardName = first.cardName ∧ second.cachedName = first.cachedName ∧
      second.fallback = first.fallback ∧ second.attached = first.attached := by
  intro first second
  have hbegun : Twins cfg (fun _ => False) (run.committing other) (run.committing plan) :=
    ⟨rfl, rfl, rfl, rfl, rfl, rfl, rfl, ⟨hopens.available, hopens.allowed⟩,
      ⟨hopens.available, hopens.allowed⟩, fun _ _ => rfl⟩
  have hended := hbegun.perform modem fun hcall => ⟨hclean hcall, hclean hcall⟩
  exact ⟨hended.sent_eq, hended.identity_eq, hended.cardName_eq, hended.cachedName_eq,
    hended.fallback_eq, hended.attached_eq⟩

/-- A card comes up while nothing can be kept, and is announced as if it could. -/
theorem unsaved_card_is_announced :
    let run := Run.start {} { path := "/ril_0", iccid := some "8901" } ({} : UnreliableStore)
    let kept := (run.committing []).perform {} Modem.atHome .resync
    let lost := (run.committing [false, false, false, false]).perform {} Modem.atHome .resync
    Reachable {} run ∧ run.store.Opens ∧ run.hasPendingWrites = false ∧
      kept.hasPendingWrites = false ∧ lost.hasPendingWrites = true ∧
      lost.sent = kept.sent ∧ lost.identity = kept.identity ∧ lost.cardName = kept.cardName ∧
      lost.cachedName = kept.cachedName ∧ lost.fallback = kept.fallback ∧
      lost.attached = kept.attached := by
  intro run kept lost
  have hopens : run.store.Opens := ⟨by decide +kernel, by decide +kernel⟩
  have hclean : run.hasPendingWrites = false := by decide +kernel
  refine ⟨.start _ _, hopens, hclean, by decide +kernel, by decide +kernel, ?_⟩
  exact failed_commits_go_unnoticed {} Modem.atHome hopens (fun _ => hclean) [] _

end SimIdentity
