import SimIdentity.Proofs.Access
import SimIdentity.Proofs.Adoption
import SimIdentity.Proofs.Candor

/-!
# Outlines

A signal that has become due is not withdrawn when its part of the identity changes back. So which
signals a call sends is not to be seen from how it ends, and depends on what was there on the way.
An `Outline` is what that in turn depends on: what is shown, and what the name to show is chosen
from. What there is to do about the stores is left out of it.

Each step of a tracker is a step of its outline, given what looking the cache up tells. From one run
to another there is a list of outlines on the way, and a signal has become due exactly if at one of
them its part was another one (`Run.Passes`). The lists of two runs one after the other are
appended.

## What is proved

* `Run.passes_observeIccid`: on the way to another serial number there are two outlines, before and
  after the name is looked up.
* `Run.passes_observeAll`: while everything is read there are these and one for each further step.
  What the cache tells then is what it told at first, although the tracker has written to it.
-/

namespace SimIdentity

/-! ### Outlines -/

/-- What is shown of a card, and what the name to show is chosen from. -/
structure Outline where
  /-- The serial number. -/
  iccid : Option String := none
  /-- The subscription. -/
  imsi : Option String := none
  /-- The name of the card. -/
  cardName : Option String := none
  /-- The name for the cache. -/
  cachedName : Option String := none
  /-- The fallback name. -/
  fallback : FallbackName := ∅
  deriving DecidableEq, Repr

namespace Outline

/-- The part of the identity that a signal is about. -/
def part (outline : Outline) : Signal → Option String
  | .iccid => outline.iccid
  | .imsi => outline.imsi
  | .spn => publicName? outline.cardName outline.cachedName outline.fallback

variable (modem : Modem) (told : Cache.Entry → Option String) (outline : Outline)

/-- Takes a name over, if there is one and the card has none of its own. -/
def adopt (name? : Option String) : Outline :=
  { outline with
    cachedName := if outline.cardName = none then name? <|> outline.cachedName
      else outline.cachedName }

/-- Takes over the fallback name that the modem gives. -/
def refreshFallback : Outline := { outline with fallback := modem.fallbackName }

/-- Takes over the subscription that the cache tells for the card, and the fallback name with it. -/
def recallImsi (iccid : String) : Outline :=
  match told (.imsiOf iccid) with
  | none => outline
  | some imsi =>
    if outline.imsi = some imsi then outline
    else { outline with imsi := some imsi }.refreshFallback modem

/-- Takes over the name that the cache tells for the subscription. -/
def recallName : Outline :=
  outline.adopt (outline.imsi.bind fun imsi => told (.nameOf imsi))

/-- Takes over another subscription, with the name that the cache tells for it. -/
def adoptImsi (imsi : String) : Outline :=
  if outline.imsi = some imsi then outline
  else { outline with imsi := some imsi }.recallName told

/-- Takes over the subscription that the modem reports, and the fallback name with it. -/
def observeImsi : Outline :=
  match known modem.imsi with
  | none => outline.refreshFallback modem
  | some imsi => (outline.adoptImsi told imsi).refreshFallback modem

/-- Takes over the name that the card has. -/
def observeCardName : Outline :=
  match known modem.spn with
  | none => outline
  | some name => { outline with cardName := some name, cachedName := some name }

/-- The outlines that come about with the serial number, the first one at the head. -/
def withIccid : List Outline :=
  if outline.iccid = known modem.iccid then []
  else
    match known modem.iccid with
    | none => [{}]
    | some iccid =>
      let recalled := { outline with iccid := some iccid }.recallImsi modem told iccid
      [recalled, recalled.recallName told]

/-- The outline once the serial number is read. -/
def afterIccid : Outline := (outline.withIccid modem told).getLastD outline

/-- The outline once the network is read as well. -/
def afterNetwork : Outline := (outline.afterIccid modem told).adopt modem.homeOperator?

/-- The outline once the subscription is read as well. -/
def afterImsi : Outline := (outline.afterNetwork modem told).observeImsi modem told

/-- The outline once the name of the card is read as well. -/
def afterCardName : Outline := (outline.afterImsi modem told).observeCardName modem

/-- The outline once everything is read. At the end the network is asked again. -/
def afterAll : Outline := (outline.afterCardName modem told).adopt modem.homeOperator?

/-- The outlines that come about while everything is read, the first one at the head. -/
def withAll : List Outline :=
  outline.withIccid modem told ++
    [outline.afterNetwork modem told, outline.afterImsi modem told,
      outline.afterCardName modem told, outline.afterAll modem told]

end Outline

/-- The outline of what is known. -/
def Knowledge.outline (knowledge : Knowledge) : Outline where
  iccid := knowledge.identity.iccid
  imsi := knowledge.identity.imsi
  cardName := knowledge.cardName
  cachedName := knowledge.cachedName
  fallback := knowledge.fallback

/-- Of coherent knowledge, the outline tells what is shown. -/
theorem Knowledge.Coherent.part_eq {knowledge : Knowledge} (h : knowledge.Coherent)
    (signal : Signal) : knowledge.identity.part signal = knowledge.outline.part signal := by
  cases signal with
  | iccid => rfl
  | imsi => rfl
  | spn => exact h.spn_eq

/-- What looking an entry up tells. A text that is empty tells nothing. -/
def Cache.told {σ : Type} [StringStore σ] (cfg : Config) (store : σ) (entry : Cache.Entry) :
    Option String :=
  match (lookup cfg entry store).1 with
  | .found text => known (some text)
  | .missing => none
  | .unreadable => none

namespace Run

variable {σ : Type} {run later last : Run σ}

/-! ### Each step is one of the outline -/

theorem outline_refreshPublicName (run : Run σ) : run.refreshPublicName.outline = run.outline := by
  obtain ⟨_, _, hrefresh⟩ := refreshPublicName_touches run
  rw [hrefresh]
  rfl

theorem outline_refreshFallback (modem : Modem) (run : Run σ) :
    (run.refreshFallback modem).outline = run.outline.refreshFallback modem := by
  obtain ⟨_, _, _, hrefresh⟩ := refreshFallback_touches modem run
  rw [hrefresh]
  rfl

theorem outline_forgetCard (run : Run σ) :
    run.forgetCard.outline = { iccid := run.identity.iccid } := by
  obtain ⟨_, _, hforget⟩ := forgetCard_touches run
  rw [hforget]
  rfl

variable [StringStore σ] (cfg : Config)

theorem outline_persistImsi (run : Run σ) : (run.persistImsi cfg).outline = run.outline := by
  obtain ⟨_, _, _, _, hpersist⟩ := persistImsi_touches cfg run
  rw [hpersist]
  rfl

theorem outline_persistName (run : Run σ) : (run.persistName cfg).outline = run.outline := by
  obtain ⟨_, _, _, _, hpersist⟩ := persistName_touches cfg run
  rw [hpersist]
  rfl

theorem outline_retryWrites (run : Run σ) : (run.retryWrites cfg).outline = run.outline := by
  obtain ⟨_, _, _, _, _, hretry⟩ := retryWrites_touches cfg run
  rw [hretry]
  rfl

theorem outline_adoptName (name : String) (run : Run σ) :
    (run.adoptName cfg name).outline = { run.outline with cachedName := some name } := by
  obtain ⟨_, _, _, _, _, _, hadopt⟩ := adoptName_touches cfg name run
  rw [hadopt]
  rfl

theorem outline_adoptHomeOperator (h : run.Sound) (modem : Modem) :
    (run.adoptHomeOperator cfg modem).outline = run.outline.adopt modem.homeOperator? := by
  unfold adoptHomeOperator
  cases modem.homeOperator? with
  | none => simp [Outline.adopt]
  | some name =>
    dsimp only
    rw [note, known_eq_self h.cardName_ne]
    split
    case isTrue hcard =>
      rw [outline_adoptName]
      exact congrArg (fun cachedName => { run.outline with cachedName }) (if_pos hcard).symm
    case isFalse hcard =>
      exact congrArg (fun cachedName => { run.outline with cachedName }) (if_neg hcard).symm

theorem outline_observeNetwork (h : run.Sound) (modem : Modem) :
    (run.observeNetwork cfg modem).outline = run.outline.adopt modem.homeOperator? := by
  obtain ⟨trail, hobserve⟩ := observeNetwork_eq_adoptHomeOperator cfg modem run
  have hread : ({ run with trail, attached := modem.network.isSome } : Run σ).Sound :=
    h.congr rfl rfl rfl rfl
  rw [hobserve]
  exact outline_adoptHomeOperator cfg hread modem

theorem outline_adoptCardName (h : run.Sound) (name : String) :
    (run.adoptCardName cfg name).outline =
      { run.outline with cardName := some name, cachedName := some name } := by
  simp only [adoptCardName]
  split
  case isTrue hsame =>
    have hcached : run.cachedName = some name :=
      (h.cachedName_eq (by rw [hsame]; exact Option.some_ne_none name)).trans hsame
    simp [Knowledge.outline, hsame, hcached]
  case isFalse =>
    rw [outline_refreshPublicName, outline_persistName, outline_adoptName]
    rfl

theorem outline_observeCardName (h : run.Sound) (modem : Modem) :
    (run.observeCardName cfg modem).outline = run.outline.observeCardName modem := by
  simp only [observeCardName, Outline.observeCardName]
  split
  case h_1 name hname =>
    rw [hname]
    exact outline_adoptCardName cfg h name
  case h_2 hnone => rw [hnone]

/-- A text that is found is what looking it up tells. -/
theorem lookup_eq_told (cfg : Config) (entry : Cache.Entry) (run : Run σ) :
    ∃ outcome store trail, run.lookup cfg entry = (outcome, { run with store, trail }) ∧
      Cache.told cfg run.store entry =
        match outcome with
        | .found text => known (some text)
        | .missing => none
        | .unreadable => none :=
  ⟨_, _, _, rfl, rfl⟩

theorem outline_recallName (h : run.Sound) :
    (run.recallName cfg).outline = run.outline.recallName (Cache.told cfg run.store) := by
  simp only [recallName, Outline.recallName]
  rw [known_eq_self h.imsi_ne]
  have hnothing : run.outline = run.outline.adopt none := by simp [Outline.adopt]
  cases himsi : run.identity.imsi with
  | none =>
    rw [show run.outline.imsi = none from himsi]
    exact hnothing
  | some imsi =>
    obtain ⟨outcome, store, trail, hlookup, htold⟩ := lookup_eq_told cfg (.nameOf imsi) run
    rw [show run.outline.imsi = some imsi from himsi]
    dsimp only [Option.bind_some]
    rw [hlookup, htold]
    cases outcome with
    | missing => exact hnothing
    | unreadable => exact hnothing
    | found name =>
      dsimp only
      split
      case isTrue hsame =>
        rcases hsame with rfl | hsame
        · exact hnothing
        · by_cases hempty : name = ""
          · subst hempty
            exact hnothing
          · simp [Outline.adopt, Knowledge.outline, known_some hempty, hsame]
      case isFalse hnew =>
        rw [not_or] at hnew
        rw [known_some hnew.1, known_eq_self h.cardName_ne]
        split
        case isTrue hcard =>
          rw [outline_persistName]
          simp [Outline.adopt, Knowledge.outline, note, hcard]
        case isFalse hcard =>
          rw [Decidable.not_not] at hcard
          rw [outline_refreshPublicName, outline_persistName]
          split
          · simp [Outline.adopt, Knowledge.outline, note, hcard]
          · simp [Outline.adopt, Knowledge.outline, note, hcard]

theorem outline_recallImsi (modem : Modem) (iccid : String) (run : Run σ) :
    (run.recallImsi cfg modem iccid).outline =
      run.outline.recallImsi modem (Cache.told cfg run.store) iccid := by
  obtain ⟨outcome, store, trail, hlookup, htold⟩ := lookup_eq_told cfg (.imsiOf iccid) run
  simp only [recallImsi, Outline.recallImsi]
  rw [hlookup, htold]
  cases outcome with
  | missing => rfl
  | unreadable => rfl
  | found imsi =>
    dsimp only
    split
    case isTrue hsame =>
      by_cases hempty : imsi = ""
      · subst hempty
        rfl
      · rw [known_some hempty]
        exact (if_pos (hsame.resolve_left hempty)).symm
    case isFalse hnew =>
      rw [not_or] at hnew
      rw [known_some hnew.1]
      refine Eq.trans ?_ (if_neg hnew.2).symm
      show (refreshFallback modem _).outline = _
      rw [outline_refreshFallback, outline_persistImsi]
      split
      · rfl
      · rfl

end Run

/-! ### What a memory tells -/

namespace Cache

variable {cfg : Config} {store later : VolatileStore} {entry : Entry}

/-- A memory tells what it holds while it can be reached. -/
theorem told_of_available (h : store.available = true) :
    told cfg store entry = known (store.cached cfg entry) := by
  unfold told
  rw [lookup_of_available h]
  show _ = known (store.get? (entry.address cfg))
  cases store.get? (entry.address cfg) with
  | none => rfl
  | some text => rfl

/-- And otherwise it tells nothing. -/
theorem told_of_unavailable (h : store.available = false) : told cfg store entry = none := by
  have hacquire : StringStore.acquire (entry.address cfg).store store =
      (.error .unavailable, store) := by
    dsimp only [StringStore.acquire, VolatileStore.acquire]
    rw [h]
    rfl
  unfold told
  rw [lookup_of_refused hacquire]

/-- It goes on to tell the same of an entry that it goes on to hold. -/
theorem told_of_uses (huses : Uses cfg store later)
    (hheld : store.available = true → later.cached cfg entry = store.cached cfg entry) :
    told cfg later entry = told cfg store entry := by
  cases havailable : store.available with
  | true =>
    rw [told_of_available (huses.available havailable), told_of_available havailable,
      hheld havailable]
  | false =>
    have hlater : later.available = false := by
      refine Bool.eq_false_iff.2 fun hlater => ?_
      rw [huses.available_before hlater] at havailable
      cases havailable
    rw [told_of_unavailable hlater, told_of_unavailable havailable]

end Cache

namespace Outline

variable {told told' : Cache.Entry → Option String} {outline : Outline}

/-- Only what is told of the subscription that is tracked makes a difference to its name. -/
theorem recallName_congr
    (h : ∀ imsi, outline.imsi = some imsi → told (.nameOf imsi) = told' (.nameOf imsi)) :
    outline.recallName told = outline.recallName told' := by
  unfold recallName
  cases himsi : outline.imsi with
  | none => rfl
  | some imsi => exact congrArg outline.adopt (h imsi himsi)

/-- And when the subscription is read, what is told of another one. -/
theorem observeImsi_congr (modem : Modem)
    (h : ∀ imsi, outline.imsi ≠ some imsi → told (.nameOf imsi) = told' (.nameOf imsi)) :
    outline.observeImsi modem told = outline.observeImsi modem told' := by
  unfold observeImsi adoptImsi
  cases known modem.imsi with
  | none => rfl
  | some imsi =>
    dsimp only
    split
    · rfl
    case isFalse hnew =>
      rw [recallName_congr]
      intro other hother
      cases hother
      exact h imsi hnew

end Outline

namespace Run

variable {cfg : Config} {run : Run VolatileStore} {modem : Modem}

theorem outline_adoptImsi (h : run.Sound) {imsi : String} (hne : imsi ≠ "") :
    (run.adoptImsi cfg imsi).outline =
      run.outline.adoptImsi (Cache.told cfg run.store) imsi := by
  by_cases hsame : run.identity.imsi = some imsi
  · simp only [adoptImsi]
    rw [if_pos hsame]
    exact (if_pos hsame).symm
  simp only [adoptImsi]
  rw [if_neg hsame]
  refine Eq.trans ?_ (if_neg hsame).symm
  generalize hseen : ({ run.note (.imsiAdopted imsi) with
    identity.imsi := some imsi, imsiDirty := true } : Run VolatileStore) = seen
  obtain ⟨hsound, hstore, houtline⟩ : seen.Sound ∧ seen.store = run.store ∧
      seen.outline = { run.outline with imsi := some imsi } := by
    rw [← hseen]
    exact ⟨{ h with imsi_ne := fun h' => hne (Option.some.inj h') }, rfl, rfl⟩
  have hsaved : (seen.persistImsi cfg).Sound := by
    obtain ⟨_, _, _, _, hpersist⟩ := persistImsi_touches cfg seen
    rw [hpersist]
    exact hsound.congr rfl rfl rfl rfl
  have hprogress : Progress cfg none seen (seen.persistImsi cfg) := progress_persistImsi seen
  show (persistName cfg _).outline = _
  rw [outline_persistName, outline_recallName cfg hsaved, outline_persistImsi, houtline]
  refine Outline.recallName_congr fun other _ => ?_
  rw [← hstore]
  refine Cache.told_of_uses hprogress.uses fun havailable => ?_
  have hledger : (seen.persistImsi cfg).ledger cfg = (seen.ledger cfg).persistImsi :=
    ledger_persistImsi havailable
  refine (congrFun (congrArg Ledger.entries hledger) (.nameOf other)).trans ?_
  exact Ledger.nameOf_persistImsi other _

theorem outline_observeImsi (h : run.Sound) (modem : Modem) :
    (run.observeImsi cfg modem).outline =
      run.outline.observeImsi modem (Cache.told cfg run.store) := by
  simp only [observeImsi, Outline.observeImsi]
  rw [outline_refreshFallback]
  cases himsi : known modem.imsi with
  | none => rfl
  | some imsi => exact congrArg _ (outline_adoptImsi h (known_eq_some_iff.1 himsi).2)

end Run

namespace Ledger

variable {ledger : Ledger} {modem : Modem} {other : String}

/-- To recall the subscription leaves the cache alone. -/
theorem entries_recallImsi (iccid : String) (ledger : Ledger) :
    (ledger.recallImsi iccid).entries = ledger.entries := by
  rcases recallImsi_cases iccid ledger with ⟨-, hsame⟩ | ⟨_, -, -, hrecall⟩
  · rw [hsame]
  · rw [hrecall]

/-- Until the subscription is read, the names of all others but the one that is tracked then are
left alone. -/
theorem nameOf_adoptHomeOperator_observeIccid
    (hother : ((ledger.observeIccid modem).adoptHomeOperator modem).imsi ≠ some other) :
    ((ledger.observeIccid modem).adoptHomeOperator modem).entries (.nameOf other) =
      ledger.entries (.nameOf other) := by
  have hknown {text : Option String} (h : text ≠ some other) : known text ≠ some other :=
    fun h' => h (known_eq_some_iff.1 h').1
  have hoperator : NameSteps (ledger.observeIccid modem)
      ((ledger.observeIccid modem).adoptHomeOperator modem) :=
    NameSteps.refl.adoptHomeOperator modem
  rw [hoperator.renames.imsi_eq] at hother
  rw [hoperator.nameOf_eq (hknown hother)]
  unfold observeIccid at hother ⊢
  by_cases hsame : ledger.iccid = known modem.iccid
  · rw [if_pos hsame]
  · rw [if_neg hsame] at hother ⊢
    cases hiccid : known modem.iccid with
    | none => rfl
    | some iccid =>
      rw [hiccid] at hother
      dsimp only at hother ⊢
      generalize hbegun : ({ ledger with iccid := some iccid } : Ledger) = begun at hother ⊢
      have hrecall : NameSteps (begun.recallImsi iccid) (begun.recallImsi iccid).recallName :=
        NameSteps.refl.recallName
      rw [hrecall.renames.imsi_eq] at hother
      rw [hrecall.nameOf_eq (hknown hother), entries_recallImsi, ← hbegun]

end Ledger

/-! ### What becomes due on the way -/

namespace Run

section Passing

variable {σ : Type} {run later last : Run σ} {moments moments' : List Outline}

/-- From one run to the other, there were these outlines. A signal is due exactly if it was due
before or its part was another one at one of these moments. -/
structure Passes (run later : Run σ) (moments : List Outline) : Prop where
  /-- The last of them is the one at the end. -/
  outline_eq : later.outline = moments.getLastD run.outline
  /-- Every other part made its signal due. -/
  mem_due_iff (signal : Signal) : signal ∈ later.due ↔
    signal ∈ run.due ∨ ∃ moment ∈ moments, moment.part signal ≠ run.outline.part signal

namespace Passes

theorem refl (run : Run σ) : Passes run run [] where
  outline_eq := rfl
  mem_due_iff signal := by simp

theorem outline_of_single {moment : Outline} (h : Passes run later [moment]) :
    later.outline = moment := h.outline_eq

/-- What is another part in the end is one that was passed. -/
theorem passed_of_ne (h : Passes run later moments) {signal : Signal}
    (hne : later.outline.part signal ≠ run.outline.part signal) :
    ∃ moment ∈ moments, moment.part signal ≠ run.outline.part signal := by
  rcases List.eq_nil_or_concat moments with rfl | ⟨rest, moment, rfl⟩
  · exact absurd (congrArg (·.part signal) h.outline_eq) hne
  · have hlast : later.outline = moment := by simpa using h.outline_eq
    exact ⟨moment, by simp, hlast ▸ hne⟩

/-- A part that is another one for the second half only is one that the first half ended with. -/
theorem trans (h : Passes run later moments) (h' : Passes later last moments') :
    Passes run last (moments ++ moments') where
  outline_eq := by
    rw [h'.outline_eq, h.outline_eq]
    simp [List.getLastD_eq_getLast?]
  mem_due_iff signal := by
    rw [h'.mem_due_iff, h.mem_due_iff, or_assoc]
    refine or_congr_right ?_
    by_cases hsame : later.outline.part signal = run.outline.part signal
    · rw [hsame]
      simp [or_and_right, exists_or]
    · obtain ⟨moment, hmem, hpassed⟩ := h.passed_of_ne hsame
      refine iff_of_true (.inl ⟨moment, hmem, hpassed⟩) ?_
      exact ⟨moment, List.mem_append_left _ hmem, hpassed⟩

/-- If nothing was due, the signals that are sent are those of the parts that were another one. -/
theorem exists_news (h : Passes run later moments) (hdue : run.due = ∅)
    (hsent : later.sent = run.sent) :
    ∃ news, later.announce.sent = run.sent ++ news ∧ ∀ signal,
      (∃ notification ∈ news, notification.signal = signal) ↔
        ∃ moment ∈ moments, moment.part signal ≠ run.outline.part signal := by
  refine ⟨later.due.toList.map fun signal => ⟨signal, later.identity⟩, ?_, fun signal => ?_⟩
  · rw [← hsent]
    rfl
  · rw [mem_news, h.mem_due_iff, hdue]
    simp only [SignalSet.not_mem_empty, false_or]

variable [StringStore σ] {cfg : Config}

/-- A step that is candid passes what it ends with. -/
theorem single (hprogress : Progress cfg none run later)
    (hcandid : ∀ signal, Candid signal run later) (h : run.Coherent) (h' : later.Coherent) :
    Passes run later [later.outline] where
  outline_eq := rfl
  mem_due_iff signal := by
    simp only [List.mem_singleton, exists_eq_left, ← h.part_eq, ← h'.part_eq]
    exact ⟨hcandid signal, hprogress.mem_due (Option.some_ne_none _)⟩

end Passes

end Passing

variable {cfg : Config} {run : Run VolatileStore}

/-- To recall the subscription leaves all names in the cache. -/
theorem told_recallImsi {iccid : String} (hiccid : run.identity.iccid = some iccid)
    (hne : iccid ≠ "") (modem : Modem) (imsi : String) :
    Cache.told cfg (run.recallImsi cfg modem iccid).store (.nameOf imsi) =
      Cache.told cfg run.store (.nameOf imsi) := by
  have hprogress : Progress cfg none run (run.recallImsi cfg modem iccid) :=
    progress_recallImsi modem hne run
  refine Cache.told_of_uses hprogress.uses fun havailable => ?_
  have hknown : known run.identity.iccid = some iccid := by rw [hiccid, known_some hne]
  have hledger : (run.recallImsi cfg modem iccid).ledger cfg = (run.ledger cfg).recallImsi iccid :=
    ledger_recallImsi havailable hknown modem
  have hentries := (congrArg Ledger.entries hledger).trans (Ledger.entries_recallImsi iccid _)
  exact congrFun hentries (.nameOf imsi)

/-- A new serial number leads to the subscription and then to the name that the cache tells. -/
theorem passes_recallCard (h : run.Coherent) {iccid : String} (hne : iccid ≠ "")
    (hnew : run.identity.iccid ≠ some iccid) (modem : Modem) :
    let told := Cache.told cfg run.store
    let recalled := { run.outline with iccid := some iccid }.recallImsi modem told iccid
    Passes run ((({ run with identity.iccid := some iccid } : Run VolatileStore).queue
      .iccid).recallCard cfg modem iccid) [recalled, recalled.recallName told] := by
  intro told recalled
  generalize hbegun : ({ run with identity.iccid := some iccid } : Run VolatileStore).queue .iccid =
    begun
  obtain ⟨hiccid, hstore, houtline, hcoherent⟩ : begun.identity.iccid = some iccid ∧
      begun.store = run.store ∧ begun.outline = { run.outline with iccid := some iccid } ∧
        begun.Coherent := by
    rw [← hbegun]
    exact ⟨rfl, rfl, rfl, { h with iccid_ne := fun h' => hne (Option.some.inj h') }⟩
  have hfirst : (begun.recallImsi cfg modem iccid).outline = recalled := by
    rw [outline_recallImsi, houtline, hstore]
  have hsecond : (begun.recallCard cfg modem iccid).outline = recalled.recallName told := by
    rw [recallCard, outline_recallName cfg (hcoherent.recallImsi cfg modem iccid).toSound, hfirst]
    refine Outline.recallName_congr fun imsi _ => ?_
    rw [told_recallImsi hiccid hne, hstore]
  have hprogress : Progress cfg none run (begun.recallImsi cfg modem iccid) := by
    rw [← hbegun]
    exact (progress_iccid (some iccid) run).queue.trans (progress_recallImsi modem hne _)
  have hkept : (begun.recallImsi cfg modem iccid).identity.iccid = some iccid := by
    obtain ⟨_, _, _, _, _, _, _, _, _, _, hrecall⟩ := recallImsi_touches cfg modem iccid begun
    rw [hrecall]
    exact hiccid
  have hcandid (signal : Signal) : Candid signal run (begun.recallImsi cfg modem iccid) := by
    refine candid_iccid ?_ hkept hnew
    rw [hbegun]
    exact candid_recallImsi modem iccid begun
  have hpassed := Passes.single hprogress hcandid h (hcoherent.recallImsi cfg modem iccid)
  have hpassed' := hpassed.trans (.single (progress_recallName _)
    (fun _ => candid_recallName _) (hcoherent.recallImsi cfg modem iccid)
    (hcoherent.recallCard cfg modem iccid))
  rw [show recallName cfg _ = begun.recallCard cfg modem iccid from rfl, hfirst, hsecond]
    at hpassed'
  exact hpassed'

theorem passes_observeIccid (h : run.Coherent) (modem : Modem) :
    Passes run (run.observeIccid cfg modem)
      (run.outline.withIccid modem (Cache.told cfg run.store)) := by
  have hcoherent := h.observeIccid cfg modem
  by_cases hsame : run.identity.iccid = known modem.iccid
  · simp only [observeIccid, Outline.withIccid]
    rw [if_pos hsame, if_pos (show run.outline.iccid = known modem.iccid from hsame)]
    exact .refl run
  · have hwith : run.outline.withIccid modem (Cache.told cfg run.store) = _ := if_neg hsame
    rw [hwith]
    cases hiccid : known modem.iccid with
    | none =>
      have hlost : (run.observeIccid cfg modem).outline = {} := by
        simp only [observeIccid]
        rw [if_neg hsame, hiccid]
        exact outline_forgetCard _
      have hpasses : Passes run (run.observeIccid cfg modem)
          [(run.observeIccid cfg modem).outline] :=
        .single (progress_observeIccid modem run)
          (fun _ => candid_observeIccid modem (fun _ => hiccid) run) h hcoherent
      rwa [hlost] at hpasses
    | some iccid =>
      have hobserve : run.observeIccid cfg modem =
          (({ run with identity.iccid := some iccid } : Run VolatileStore).queue
            .iccid).recallCard cfg modem iccid := by
        simp only [observeIccid]
        rw [if_neg hsame, hiccid]
      rw [hobserve]
      exact passes_recallCard h (known_eq_some_iff.1 hiccid).2 (hiccid ▸ hsame) modem

/-- When the subscription is read, the memory still tells of another one what it told at first. -/
theorem told_observeNetwork {modem : Modem} {imsi : String}
    (hother : ((run.observeIccid cfg modem).observeNetwork cfg modem).identity.imsi ≠ some imsi) :
    Cache.told cfg ((run.observeIccid cfg modem).observeNetwork cfg modem).store (.nameOf imsi) =
      Cache.told cfg run.store (.nameOf imsi) := by
  have hiccid : Progress cfg none run (run.observeIccid cfg modem) :=
    progress_observeIccid modem run
  have hnetwork : Progress cfg none _ ((run.observeIccid cfg modem).observeNetwork cfg modem) :=
    progress_observeNetwork modem _
  refine Cache.told_of_uses (hiccid.uses.trans hnetwork.uses) fun havailable => ?_
  have hledger : ((run.observeIccid cfg modem).observeNetwork cfg modem).ledger cfg =
      ((run.ledger cfg).observeIccid modem).adoptHomeOperator modem := by
    rw [ledger_observeNetwork (hiccid.uses.available havailable), ledger_observeIccid havailable]
  have himsi := congrArg Ledger.imsi hledger
  refine (congrFun (congrArg Ledger.entries hledger) (.nameOf imsi)).trans ?_
  exact Ledger.nameOf_adoptHomeOperator_observeIccid (himsi ▸ hother)

theorem passes_observeNetwork (h : run.Coherent) (modem : Modem) :
    Passes run (run.observeNetwork cfg modem) [run.outline.adopt modem.homeOperator?] := by
  rw [← outline_observeNetwork cfg h.toSound]
  exact .single (progress_observeNetwork modem run) (fun _ => candid_observeNetwork modem run) h
    (h.observeNetwork cfg modem)

theorem passes_observeImsi (h : run.Coherent) (modem : Modem) :
    Passes run (run.observeImsi cfg modem)
      [run.outline.observeImsi modem (Cache.told cfg run.store)] := by
  rw [← outline_observeImsi h.toSound]
  exact .single (progress_observeImsi modem run) (fun _ => candid_observeImsi modem h) h
    (h.observeImsi cfg modem)

theorem passes_observeCardName (h : run.Coherent) (modem : Modem) :
    Passes run (run.observeCardName cfg modem) [run.outline.observeCardName modem] := by
  rw [← outline_observeCardName cfg h.toSound]
  exact .single (progress_observeCardName modem run) (fun _ => candid_observeCardName modem run) h
    (h.observeCardName cfg modem)

theorem passes_adoptHomeOperator (h : run.Coherent) (modem : Modem) :
    Passes run (run.adoptHomeOperator cfg modem) [run.outline.adopt modem.homeOperator?] := by
  rw [← outline_adoptHomeOperator cfg h.toSound]
  exact .single (progress_adoptHomeOperator modem run)
    (fun _ => candid_adoptHomeOperator modem run) h (h.adoptHomeOperator cfg modem)

/-- All the outlines that come about while everything is read. -/
theorem passes_observeAll (h : run.Coherent) (modem : Modem) :
    Passes run (run.observeAll cfg modem)
      (run.outline.withAll modem (Cache.told cfg run.store)) := by
  have hiccid : Passes run (run.observeIccid cfg modem) _ := passes_observeIccid h modem
  have htold (imsi : String) (hother : ((run.observeIccid cfg modem).observeNetwork cfg
      modem).identity.imsi ≠ some imsi) := told_observeNetwork hother
  have hbegun := h.observeIccid cfg modem
  generalize Cache.told cfg run.store = told at hiccid htold ⊢
  simp only [observeAll]
  generalize run.observeIccid cfg modem = begun at hiccid htold hbegun ⊢
  have hnetwork : Passes begun (begun.observeNetwork cfg modem)
      [run.outline.afterNetwork modem told] := by
    rw [Outline.afterNetwork, Outline.afterIccid, ← hiccid.outline_eq]
    exact passes_observeNetwork hbegun modem
  have hattached := hbegun.observeNetwork cfg modem
  generalize begun.observeNetwork cfg modem = attached at htold hnetwork hattached ⊢
  have himsi : Passes attached (attached.observeImsi cfg modem)
      [run.outline.afterImsi modem told] := by
    rw [Outline.afterImsi, ← hnetwork.outline_of_single,
      ← Outline.observeImsi_congr modem (htold : ∀ imsi, attached.outline.imsi ≠ some imsi → _)]
    exact passes_observeImsi hattached modem
  have hreported := hattached.observeImsi cfg modem
  generalize attached.observeImsi cfg modem = reported at himsi hreported ⊢
  have hname : Passes reported (reported.observeCardName cfg modem)
      [run.outline.afterCardName modem told] := by
    rw [Outline.afterCardName, ← himsi.outline_of_single]
    exact passes_observeCardName hreported modem
  have hnamed := hreported.observeCardName cfg modem
  generalize reported.observeCardName cfg modem = named at hname hnamed ⊢
  have hoperator : Passes named (named.adoptHomeOperator cfg modem)
      [run.outline.afterAll modem told] := by
    rw [Outline.afterAll, ← hname.outline_of_single]
    exact passes_adoptHomeOperator hnamed modem
  have hall := (((hiccid.trans hnetwork).trans himsi).trans hname).trans hoperator
  simpa [Outline.withAll] using hall

end Run

end SimIdentity
