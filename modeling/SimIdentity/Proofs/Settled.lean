import SimIdentity.Proofs.Ledger

/-!
# Settled ledgers

A ledger is settled if the subscription is known and the name kept for it is the one that the
cache tells. Most of what a tracker does leads from settled ledgers to settled ones, and can be
said in a few words then: the subscription gets another name, which costs a commit exactly if it
is another one (`named`).

A ledger is not settled while the subscription is missing, and after another subscription was
taken over (`Moved`). In the second case it is settled again if the cache tells a name for the
new subscription, or if the old name was still waiting to be saved (`adoptImsi_of_waiting`).
-/

namespace SimIdentity

namespace Ledger

variable {ledger : Ledger} {imsi name : String} {modem : Modem}

/-! ### What the cache tells -/

/-- The subscription that the entries tell for a serial number. -/
def toldImsi (entries : Cache.Entry → Option String) (iccid : Option String) : Option String :=
  iccid.bind fun iccid => known (entries (.imsiOf iccid))

/-- The name that the entries tell for a subscription. -/
def toldName (entries : Cache.Entry → Option String) (imsi : Option String) : Option String :=
  imsi.bind fun imsi => known (entries (.nameOf imsi))

theorem toldImsi_ne_empty (entries : Cache.Entry → Option String) (iccid : Option String) :
    toldImsi entries iccid ≠ some "" := by
  cases iccid with
  | none => exact (Option.some_ne_none _).symm
  | some iccid => exact known_ne_empty _

/-- Two ledgers of one cache. -/
structure SameCache (ledger other : Ledger) : Prop where
  /-- The cache holds the same. -/
  entries_eq : ledger.entries = other.entries
  /-- It took as many commits. -/
  committed_eq : ledger.committed = other.committed

/-! ### Settled ledgers -/

/-- The subscription is known, and its name for the cache is the one that the cache tells. -/
structure Settled (imsi : String) (ledger : Ledger) : Prop where
  /-- The subscription is not empty. -/
  imsi_ne : imsi ≠ ""
  /-- It is the one that is tracked. -/
  imsi_eq : ledger.imsi = some imsi
  /-- No name waits to be saved. -/
  clean : ledger.nameDirty = false
  /-- The cache tells the name. -/
  told : toldName ledger.entries (some imsi) = ledger.cachedName

/-- Gives the subscription another name, and saves that. -/
def rename (imsi name : String) (ledger : Ledger) : Ledger :=
  { ledger.save (.nameOf imsi) name with cachedName := some name, nameDirty := false }

theorem Settled.known_imsi (h : ledger.Settled imsi) : known ledger.imsi = some imsi := by
  rw [h.imsi_eq]
  exact known_some h.imsi_ne

theorem toldName_rename (hname : name ≠ "") :
    toldName (ledger.rename imsi name).entries (some imsi) = some name := by
  show known (Function.update ledger.entries _ _ _) = some name
  rw [Function.update_self]
  exact known_some hname

/-- The name a settled ledger has already is not written. -/
theorem Settled.rename_of_eq (h : ledger.Settled imsi) (hname : ledger.cachedName = some name) :
    ledger.rename imsi name = ledger := by
  have htold : ledger.entries (.nameOf imsi) = some name :=
    (known_eq_some_iff.1 (h.told.trans hname)).1
  simp only [rename]
  rw [save_of_eq htold, ← hname, ← h.clean]

/-- Any other name is. -/
theorem Settled.committed_rename (h : ledger.Settled imsi) (hname : name ≠ "") :
    (ledger.rename imsi name).committed =
      if ledger.cachedName = some name then ledger.committed else ledger.committed + 1 := by
  have htold : ledger.entries (.nameOf imsi) = some name ↔ ledger.cachedName = some name := by
    rw [← h.told]
    show _ ↔ known _ = _
    rw [known_eq_some_iff, and_iff_left hname]
  show (if _ then _ else _) = _
  rw [if_congr htold rfl rfl]

/-- Gives the subscription another name, if there is one. -/
def named (imsi : String) (name? : Option String) (ledger : Ledger) : Ledger :=
  name?.elim ledger (ledger.rename imsi)

section Named

variable {name? : Option String}

theorem Settled.named (h : ledger.Settled imsi) (hname : name? ≠ some "") :
    (ledger.named imsi name?).Settled imsi := by
  cases name? with
  | none => exact h
  | some name =>
    exact ⟨h.imsi_ne, h.imsi_eq, rfl, toldName_rename fun hempty => hname (by rw [hempty])⟩

theorem cachedName_named :
    (ledger.named imsi name?).cachedName = (name? <|> ledger.cachedName) := by
  cases name? <;> rfl

theorem iccid_named : (ledger.named imsi name?).iccid = ledger.iccid := by
  cases name? <;> rfl

theorem cardName_named : (ledger.named imsi name?).cardName = ledger.cardName := by
  cases name? <;> rfl

/-- Naming a subscription leaves what the cache holds for other keys. -/
theorem entries_named {entry : Cache.Entry} (h : entry ≠ .nameOf imsi) :
    (ledger.named imsi name?).entries entry = ledger.entries entry := by
  cases name? with
  | none => rfl
  | some name => exact Function.update_of_ne h _ _

theorem toldImsi_named (iccid : Option String) :
    toldImsi (ledger.named imsi name?).entries iccid = toldImsi ledger.entries iccid := by
  cases iccid with
  | none => rfl
  | some iccid => exact congrArg known (entries_named (by simp))

theorem toldName_named (hname : name? ≠ some "") :
    toldName (ledger.named imsi name?).entries (some imsi) =
      (name? <|> toldName ledger.entries (some imsi)) := by
  cases name? with
  | none => rfl
  | some name => exact toldName_rename fun hempty => hname (by rw [hempty])

/-- It costs a commit if the name is another one. -/
theorem Settled.committed_named (h : ledger.Settled imsi) (hname : name? ≠ some "") :
    (ledger.named imsi name?).committed =
      if (name? <|> ledger.cachedName) = ledger.cachedName then ledger.committed
      else ledger.committed + 1 := by
  cases name? with
  | none => exact (if_pos rfl).symm
  | some name =>
    rw [if_congr eq_comm rfl rfl]
    exact h.committed_rename fun hempty => hname (by rw [hempty])

/-- Two names cost nothing if both are the one there is already. -/
theorem Settled.committed_named_named {other? : Option String} (h : ledger.Settled imsi)
    (hname : name? ≠ some "") (hother : other? ≠ some "") :
    ((ledger.named imsi name?).named imsi other?).committed = ledger.committed ↔
      (name? <|> ledger.cachedName) = ledger.cachedName ∧
        (other? <|> ledger.cachedName) = ledger.cachedName := by
  rw [(h.named hname).committed_named hother, h.committed_named hname, cachedName_named]
  by_cases hfirst : (name? <|> ledger.cachedName) = ledger.cachedName
  · rw [hfirst, if_pos rfl, and_iff_right rfl]
    split
    case isTrue hsecond => exact iff_of_true rfl hsecond
    case isFalse hsecond => exact iff_of_false (Nat.succ_ne_self _) hsecond
  · rw [if_neg hfirst]
    refine iff_of_false ?_ fun hboth => hfirst hboth.1
    split
    · omega
    · omega

end Named

/-! ### Taking over names -/

theorem adoptName_of_imsi (himsi : known ledger.imsi = some imsi) (hname : name ≠ "")
    (hnew : ledger.cachedName ≠ some name) : ledger.adoptName name = ledger.rename imsi name := by
  simp only [adoptName]
  rw [if_neg hnew]
  exact persistName_of_known rfl himsi (known_some hname)

/-- At home, a settled ledger takes the operator's name over. -/
theorem Settled.adoptHomeOperator (h : ledger.Settled imsi) (hcard : ledger.cardName = none)
    (modem : Modem) : ledger.adoptHomeOperator modem = ledger.named imsi modem.homeOperator? := by
  simp only [Ledger.adoptHomeOperator]
  cases hhome : modem.homeOperator? with
  | none => rfl
  | some name =>
    dsimp only [Ledger.named, Option.elim]
    rw [hcard, known_none, if_pos rfl]
    by_cases hname : ledger.cachedName = some name
    · rw [h.rename_of_eq hname]
      exact if_pos hname
    · exact adoptName_of_imsi h.known_imsi (Modem.ne_empty_of_homeOperator? hhome) hname

/-- The operator's name is not taken over twice. -/
theorem adoptHomeOperator_of_eq
    (h : ∀ operator, modem.homeOperator? = some operator → ledger.cachedName = some operator) :
    ledger.adoptHomeOperator modem = ledger := by
  simp only [Ledger.adoptHomeOperator]
  cases hhome : modem.homeOperator? with
  | none => rfl
  | some operator =>
    dsimp only
    split
    · exact if_pos (h operator hhome)
    · rfl

/-- Without a subscription, taking over the operator's name saves nothing. -/
theorem adoptHomeOperator_touches (himsi : known ledger.imsi = none) (modem : Modem) :
    ∃ cachedName nameDirty, ledger.adoptHomeOperator modem =
      { ledger with cachedName, nameDirty } := by
  simp only [Ledger.adoptHomeOperator]
  cases modem.homeOperator? with
  | none => exact ⟨_, _, rfl⟩
  | some name =>
    dsimp only
    split
    · unfold adoptName
      split
      · exact ⟨_, _, rfl⟩
      · exact ⟨_, _, persistName_of_imsi_none himsi⟩
    · exact ⟨_, _, rfl⟩

/-- So does taking over the name on the card. -/
theorem observeCardName_touches (himsi : known ledger.imsi = none) (modem : Modem) :
    ∃ cardName cachedName nameDirty, ledger.observeCardName modem =
      { ledger with cardName, cachedName, nameDirty } := by
  simp only [observeCardName]
  cases known modem.spn with
  | none => exact ⟨_, _, _, rfl⟩
  | some name =>
    simp only [adoptCardName]
    split
    · exact ⟨_, _, _, rfl⟩
    · exact ⟨_, _, _, persistName_of_imsi_none himsi⟩

/-- Before there is a subscription, the operator's name has to wait. -/
theorem adoptHomeOperator_of_imsi_none (himsi : ledger.imsi = none)
    (hcard : ledger.cardName = none) (hcached : ledger.cachedName = none)
    (hclean : ledger.nameDirty = false) (modem : Modem) :
    ledger.adoptHomeOperator modem =
      { ledger with
        cachedName := modem.homeOperator?, nameDirty := modem.homeOperator?.isSome } := by
  obtain ⟨iccid, _, _, _, imsiDirty, _, entries, committed⟩ := ledger
  subst himsi hcard hcached hclean
  simp only [Ledger.adoptHomeOperator]
  cases modem.homeOperator? with
  | none => rfl
  | some name =>
    dsimp only
    rw [known_none, if_pos rfl]
    simp only [adoptName]
    rw [if_neg (Option.some_ne_none name).symm]
    exact persistName_of_imsi_none rfl

/-- A new name on the card is saved in any case, and there is nothing to be added to it. -/
theorem observeNames_of_spn (himsi : known ledger.imsi = some imsi)
    (hnew : ledger.cardName ≠ some name) (hspn : known modem.spn = some name) :
    (ledger.observeCardName modem).adoptHomeOperator modem =
      { ledger.rename imsi name with cardName := some name } := by
  have hname : name ≠ "" := (known_eq_some_iff.1 hspn).2
  have hcards : ledger.observeCardName modem =
      { ledger.rename imsi name with cardName := some name } := by
    simp only [observeCardName]
    rw [hspn]
    dsimp only
    simp only [adoptCardName]
    rw [if_neg hnew]
    exact persistName_of_known rfl himsi (known_some hname)
  rw [hcards]
  simp only [Ledger.adoptHomeOperator]
  cases modem.homeOperator? with
  | none => rfl
  | some operator =>
    refine if_neg ?_
    rw [known_some hname]
    exact Option.some_ne_none name

/-- In a settled ledger, the name on the card counts for more than the operator's. -/
theorem Settled.observeNames (h : ledger.Settled imsi) (hcard : ledger.cardName = none)
    (modem : Modem) :
    SameCache ((ledger.observeCardName modem).adoptHomeOperator modem)
      (ledger.named imsi (known modem.spn <|> modem.homeOperator?)) := by
  cases hspn : known modem.spn with
  | none =>
    simp only [observeCardName]
    rw [hspn]
    show SameCache (ledger.adoptHomeOperator modem) _
    rw [h.adoptHomeOperator hcard]
    exact ⟨rfl, rfl⟩
  | some name =>
    have hnew : ledger.cardName ≠ some name := by rw [hcard]; exact (Option.some_ne_none name).symm
    rw [observeNames_of_spn h.known_imsi hnew hspn]
    exact ⟨rfl, rfl⟩

/-! ### The card and its subscription -/

/-- A ledger that knows nothing of a card takes over what the cache tells, and writes nothing. What
is told is clean, however dirty it was before. -/
theorem observeIccid_of_vacant (hiccid : ledger.iccid = none) (himsi : ledger.imsi = none)
    (hcard : ledger.cardName = none) (hcached : ledger.cachedName = none) (modem : Modem) :
    ledger.observeIccid modem =
      let imsi := toldImsi ledger.entries (known modem.iccid)
      let cachedName := toldName ledger.entries imsi
      { ledger with
        imsi, cachedName
        iccid := known modem.iccid
        imsiDirty := ledger.imsiDirty && imsi.isNone
        nameDirty := ledger.nameDirty && cachedName.isNone } := by
  obtain ⟨iccid, imsi, cardName, cachedName, imsiDirty, nameDirty, entries, committed⟩ := ledger
  dsimp only at hiccid himsi hcard hcached ⊢
  subst hiccid himsi hcard hcached
  simp only [Ledger.observeIccid]
  cases known modem.iccid with
  | none =>
    dsimp only [toldImsi, toldName, Option.bind_none, Option.isNone_none]
    rw [if_pos rfl, Bool.and_true, Bool.and_true]
  | some iccid =>
    rw [if_neg (Option.some_ne_none iccid).symm]
    dsimp only [toldImsi, Option.bind_some]
    simp only [Ledger.recallImsi]
    cases himsi : known (entries (.imsiOf iccid)) with
    | none =>
      dsimp only [toldName, Option.bind_none, Option.isNone_none]
      rw [Bool.and_true, Bool.and_true]
      rfl
    | some imsi =>
      have hknown : known (some imsi) = some imsi := known_some (known_eq_some_iff.1 himsi).2
      dsimp only [toldName, Option.bind_some, Option.isNone_some]
      rw [if_neg (Option.some_ne_none imsi).symm, Bool.and_false]
      simp only [Ledger.recallName]
      rw [hknown]
      dsimp only
      cases known (entries (.nameOf imsi)) with
      | none =>
        dsimp only [Option.isNone_none]
        rw [Bool.and_true]
      | some name =>
        dsimp only [Option.isNone_some]
        rw [if_neg (Option.some_ne_none name).symm, known_none, if_pos rfl, Bool.and_false]

/-- A blank ledger takes over what the cache tells. -/
theorem observeIccid_blank (entries : Cache.Entry → Option String) (committed : Nat)
    (modem : Modem) :
    Ledger.observeIccid modem { entries, committed } =
      { entries, committed
        iccid := known modem.iccid
        imsi := toldImsi entries (known modem.iccid)
        cachedName := toldName entries (toldImsi entries (known modem.iccid)) } :=
  observeIccid_of_vacant rfl rfl rfl rfl modem

/-- A settled ledger is not changed by a modem that shows its subscription, or none. -/
theorem Settled.observeImsi (h : ledger.Settled imsi)
    (hreported : ∀ reported, known modem.imsi = some reported → reported = imsi) :
    ledger.observeImsi modem = ledger := by
  simp only [Ledger.observeImsi]
  cases himsi : known modem.imsi with
  | none => rfl
  | some reported =>
    rw [hreported reported himsi]
    exact if_pos h.imsi_eq

/-- Another subscription was taken over and saved, and its name is still to be settled. -/
structure Moved (imsi : String) (ledger moved : Ledger) : Prop where
  /-- The new subscription is tracked. -/
  imsi_eq : moved.imsi = some imsi
  /-- The card is the same. -/
  iccid_eq : moved.iccid = ledger.iccid
  /-- So is the name on it. -/
  cardName_eq : moved.cardName = ledger.cardName
  /-- The name for the cache is still the old one. -/
  cachedName_eq : moved.cachedName = ledger.cachedName
  /-- It is as dirty as it was. -/
  nameDirty_eq : moved.nameDirty = ledger.nameDirty
  /-- The names in the cache are the same. -/
  nameOf : ∀ other, moved.entries (.nameOf other) = ledger.entries (.nameOf other)
  /-- The cache tells the new subscription for the card. -/
  imsiOf : ∀ iccid, known ledger.iccid = some iccid → moved.entries (.imsiOf iccid) = some imsi
  /-- Without a serial number nothing was saved. -/
  committed : known ledger.iccid = none → moved.committed = ledger.committed

theorem adoptImsi_eq (himsi : imsi ≠ "") (hnew : ledger.imsi ≠ some imsi) :
    ∃ moved, Moved imsi ledger moved ∧
      ledger.adoptImsi imsi = moved.recallName.persistName := by
  simp only [adoptImsi]
  rw [if_neg hnew]
  refine ⟨_, ?_, rfl⟩
  cases hiccid : known ledger.iccid with
  | none =>
    have hkept : { ledger with imsi := some imsi, imsiDirty := true }.persistImsi =
        { ledger with imsi := some imsi, imsiDirty := true } := by
      simp only [persistImsi]
      rw [hiccid]
    rw [hkept]
    refine ⟨rfl, rfl, rfl, rfl, rfl, fun _ => rfl, fun iccid h => ?_, fun _ => rfl⟩
    rw [hiccid] at h
    contradiction
  | some iccid =>
    have hsaved : { ledger with imsi := some imsi, imsiDirty := true }.persistImsi =
        { { ledger with imsi := some imsi }.save (.imsiOf iccid) imsi with imsiDirty := false } :=
      persistImsi_of_known rfl hiccid (known_some himsi)
    rw [hsaved]
    refine ⟨rfl, rfl, rfl, rfl, rfl, fun other => ?_, fun other h => ?_, fun h => ?_⟩
    · show Function.update ledger.entries (.imsiOf iccid) (some imsi) (.nameOf other) = _
      exact Function.update_of_ne (by simp) _ _
    · rw [hiccid] at h
      cases h
      exact Function.update_self _ _ _
    · rw [hiccid] at h
      contradiction

variable {moved : Ledger}

theorem Moved.toldName_eq (h : Moved imsi ledger moved) :
    toldName moved.entries (some imsi) = toldName ledger.entries (some imsi) :=
  congrArg known (h.nameOf imsi)

theorem Moved.settled (h : Moved imsi ledger moved) (himsi : imsi ≠ "") :
    Settled imsi { moved with
      cachedName := toldName ledger.entries (some imsi), nameDirty := false } where
  imsi_ne := himsi
  imsi_eq := h.imsi_eq
  clean := rfl
  told := h.toldName_eq

/-- The name that the cache tells for the new subscription takes the place of the old one. -/
theorem Moved.settle_of_told (h : Moved imsi ledger moved) (himsi : imsi ≠ "")
    (hcard : ledger.cardName = none)
    (htold : toldName ledger.entries (some imsi) = some name) :
    moved.recallName.persistName = { moved with cachedName := some name, nameDirty := false } := by
  have hknown : known moved.imsi = some imsi := by rw [h.imsi_eq, known_some himsi]
  have hheld : known (moved.entries (.nameOf imsi)) = some name := h.toldName_eq.trans htold
  simp only [recallName]
  rw [hknown]
  dsimp only
  rw [hheld]
  dsimp only
  split
  case isTrue hname =>
    have hentry := known_eq_some_iff.1 hheld
    rw [← hname]
    exact persistName_of_held hknown (by rw [hname, known_some hentry.2]) hentry.1
  case isFalse =>
    rw [h.cardName_eq, hcard, known_none, if_pos rfl]
    exact persistName_of_clean rfl

/-- Without such a name the old one stays. -/
theorem Moved.settle_of_untold (h : Moved imsi ledger moved) (himsi : imsi ≠ "")
    (htold : toldName ledger.entries (some imsi) = none) :
    moved.recallName.persistName = moved.persistName := by
  have hknown : known moved.imsi = some imsi := by rw [h.imsi_eq, known_some himsi]
  have hheld : known (moved.entries (.nameOf imsi)) = none := h.toldName_eq.trans htold
  simp only [recallName]
  rw [hknown]
  dsimp only
  rw [hheld]

/-- With a name that the cache tells, the names are observed as in any settled ledger. -/
theorem Moved.observeNames_of_told (h : Moved imsi ledger moved) (himsi : imsi ≠ "")
    (hcard : ledger.cardName = none)
    (htold : toldName ledger.entries (some imsi) = some name) (modem : Modem) :
    SameCache ((moved.recallName.persistName.observeCardName modem).adoptHomeOperator modem)
      (moved.named imsi (known modem.spn <|> modem.homeOperator?)) := by
  have hsettled := h.settled himsi
  rw [htold] at hsettled
  have hnames := hsettled.observeNames (h.cardName_eq.trans hcard) modem
  rw [h.settle_of_told himsi hcard htold]
  -- the cache of a renamed ledger does not depend on the name it had
  cases hname : (known modem.spn <|> modem.homeOperator?) with
  | none =>
    rw [hname] at hnames
    exact ⟨hnames.entries_eq, hnames.committed_eq⟩
  | some other =>
    rw [hname] at hnames
    exact ⟨hnames.entries_eq, hnames.committed_eq⟩

/-- Without one, the operator's name is not saved if it was taken over before. -/
theorem Moved.observeNames_of_untold (h : Moved imsi ledger moved) (himsi : imsi ≠ "")
    (hcard : ledger.cardName = none) (hclean : ledger.nameDirty = false)
    (hhome : ∀ operator, modem.homeOperator? = some operator →
      ledger.cachedName = some operator)
    (htold : toldName ledger.entries (some imsi) = none) :
    SameCache ((moved.recallName.persistName.observeCardName modem).adoptHomeOperator modem)
      (moved.named imsi (known modem.spn)) := by
  rw [h.settle_of_untold himsi htold, persistName_of_clean (h.nameDirty_eq.trans hclean)]
  cases hspn : known modem.spn with
  | some name =>
    have hknown : known moved.imsi = some imsi := by rw [h.imsi_eq, known_some himsi]
    have hnew : moved.cardName ≠ some name := by
      rw [h.cardName_eq, hcard]
      exact (Option.some_ne_none name).symm
    rw [observeNames_of_spn hknown hnew hspn]
    exact ⟨rfl, rfl⟩
  | none =>
    have hsame : moved.adoptHomeOperator modem = moved :=
      adoptHomeOperator_of_eq fun operator hoperator =>
        h.cachedName_eq.trans (hhome operator hoperator)
    simp only [observeCardName, hspn]
    rw [hsame]
    exact ⟨rfl, rfl⟩

theorem clean_eq_self {name? : Option String} (hname : ledger.cachedName = name?)
    (hclean : ledger.nameDirty = false) :
    { ledger with cachedName := name?, nameDirty := false } = ledger := by
  rw [← hname, ← hclean]

/-- A name that has waited for the subscription is saved now, unless the cache knows another
one. -/
theorem adoptImsi_of_waiting (himsi : imsi ≠ "") (hnew : ledger.imsi ≠ some imsi)
    (hcard : ledger.cardName = none) (hdirty : ledger.nameDirty = ledger.cachedName.isSome)
    (hname : ledger.cachedName ≠ some "") :
    ∃ settled : Ledger, settled.Settled imsi ∧ settled.cardName = none ∧
      settled.cachedName = toldName ledger.entries (some imsi) ∧
      (∀ iccid, known ledger.iccid = some iccid → settled.entries (.imsiOf iccid) = some imsi) ∧
      (known ledger.iccid = none → settled.committed = ledger.committed) ∧
      ledger.adoptImsi imsi = settled.named imsi
        (if settled.cachedName = none then ledger.cachedName else none) := by
  obtain ⟨moved, h, hadopt⟩ := adoptImsi_eq himsi hnew
  refine ⟨_, h.settled himsi, h.cardName_eq.trans hcard, rfl, h.imsiOf, h.committed, ?_⟩
  rw [hadopt]
  cases htold : toldName ledger.entries (some imsi) with
  | some name => exact h.settle_of_told himsi hcard htold
  | none =>
    rw [h.settle_of_untold himsi htold, if_pos rfl]
    cases hcached : ledger.cachedName with
    | none =>
      have hclean : moved.nameDirty = false := by rw [h.nameDirty_eq, hdirty, hcached]; rfl
      rw [persistName_of_clean hclean]
      exact (clean_eq_self (h.cachedName_eq.trans hcached) hclean).symm
    | some name =>
      have hempty : name ≠ "" := fun hempty => hname (by rw [hcached, hempty])
      have hsaved : moved.persistName = { moved.save (.nameOf imsi) name with nameDirty := false } :=
        persistName_of_known (by rw [h.nameDirty_eq, hdirty, hcached]; rfl)
          (by rw [h.imsi_eq, known_some himsi])
          (by rw [h.cachedName_eq, hcached, known_some hempty])
      rw [hsaved]
      exact (@clean_eq_self { moved.save (.nameOf imsi) name with nameDirty := false } _
        (h.cachedName_eq.trans hcached) rfl).symm

end Ledger

end SimIdentity
