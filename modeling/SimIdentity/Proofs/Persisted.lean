import SimIdentity.Proofs.Pending
import SimIdentity.Proofs.Settled

/-!
# What the modem shows is saved

A tracker saves what is new to it. It does not ask whether the cache holds what it knows already,
and so the cache may come to lack something that the modem shows.

In one direction, the cache always agrees with what is known: where it tells something of the card
or its subscription, it tells what the tracker knows (`Ledger.Agrees`). So once everything has been
read, it tells nothing but what the modem shows. It may well tell nothing at all.

## What is proved

`resync_saves_iff`: over a memory that can be reached at all times, all that the modem shows is
saved when it is read, except in two cases (`Ledger.SkipsImsi`, `Ledger.SkipsName`). In both it was
known before, though not to the cache.
-/

namespace SimIdentity

namespace Ledger

variable {ledger after : Ledger} {modem : Modem} {iccid imsi name : String}

/-- To save a name changes what the cache tells for the subscription, and nothing else. -/
theorem entries_persistName_of_ne {entry : Cache.Entry}
    (h : ∀ imsi, known ledger.imsi = some imsi → entry ≠ .nameOf imsi) :
    ledger.persistName.entries entry = ledger.entries entry := by
  simp only [persistName]
  split
  case h_1 imsi name _ himsi _ => exact Function.update_of_ne (h imsi himsi) _ _
  case h_2 => rfl

/-- Work on names leaves the subscriptions that the cache tells. -/
theorem NameSteps.imsiOf_eq (h : NameSteps ledger after) (iccid : String) :
    after.entries (.imsiOf iccid) = ledger.entries (.imsiOf iccid) := by
  induction h with
  | refl => rfl
  | learn _ _ _ _ ih => exact ih
  | persistName _ ih => exact (entries_persistName_of_ne fun _ _ => by simp).trans ih

/-- What the cache told before such work, it tells or has replaced by another text. -/
theorem NameSteps.tells (h : NameSteps ledger after) {entry : Cache.Entry}
    (htold : known (ledger.entries entry) ≠ none) : known (after.entries entry) ≠ none := by
  induction h with
  | refl => exact htold
  | learn _ _ _ _ ih => exact ih
  | @persistName after _ ih =>
    simp only [Ledger.persistName]
    split
    case h_1 imsi name _ _ hname =>
      show known (Function.update after.entries (.nameOf imsi) (some name) entry) ≠ none
      rw [Function.update_apply]
      split
      · rw [known_some (known_eq_some_iff.1 hname).2]
        exact Option.some_ne_none name
      · exact ih
    case h_2 => exact ih

/-! ### Agreement with the cache -/

/-- The cache tells no other subscription for the card than the one known, and the card has no other
name than the one for the cache. -/
structure AgreesOnCard (ledger : Ledger) : Prop where
  /-- The subscription that the cache tells is the one known. -/
  imsi (iccid told : String) : known ledger.iccid = some iccid →
    known (ledger.entries (.imsiOf iccid)) = some told → ledger.imsi = some told
  /-- The name of the card is the one for the cache. -/
  cardName (name : String) : known ledger.cardName = some name → ledger.cachedName = some name

/-- Nor does the cache tell another name for the subscription. -/
structure Agrees (ledger : Ledger) : Prop extends AgreesOnCard ledger where
  /-- The name that the cache tells is the one known. -/
  name : ledger.EchoesName

/-- Who knows nothing agrees with any cache. -/
theorem agrees_blank (entries : Cache.Entry → Option String) (committed : Nat) :
    Agrees { entries, committed } := by
  refine ⟨⟨fun iccid _ hiccid => ?_, fun name hname => ?_⟩, fun imsi _ himsi => ?_⟩
  · exact absurd hiccid.symm (Option.some_ne_none iccid)
  · exact absurd hname.symm (Option.some_ne_none name)
  · exact absurd himsi.symm (Option.some_ne_none imsi)

/-- A name that has to be saved agrees with the cache afterwards. -/
theorem AgreesOnCard.persistName (h : ledger.AgreesOnCard)
    (hname : ledger.EchoesName ∨ ledger.nameDirty = true ∧ known ledger.cachedName ≠ none) :
    ledger.persistName.Agrees := by
  simp only [Ledger.persistName]
  split
  case h_1 imsi name _ himsi hcached =>
    have hentries (entry : Cache.Entry) :
        (ledger.save (.nameOf imsi) name).entries entry =
          if entry = .nameOf imsi then some name else ledger.entries entry :=
      Function.update_apply _ _ _ _
    refine ⟨⟨fun iccid told hiccid htold => h.imsi iccid told hiccid ?_, h.cardName⟩, ?_⟩
    · rw [← htold]
      exact congrArg known ((hentries (.imsiOf iccid)).trans (if_neg (by simp))).symm
    · intro other told hother htold
      obtain rfl : imsi = other := Option.some.inj (himsi.symm.trans hother)
      have hsaved : known (some name) = some told := by
        rw [← htold]
        exact congrArg known ((hentries (.nameOf imsi)).trans (if_pos rfl)).symm
      exact (known_eq_some_iff.1 hcached).1.trans (known_eq_some_iff.1 hsaved).1
  case h_2 hnot =>
    refine ⟨h, hname.elim id ?_⟩
    rintro ⟨hdirty, hcached⟩ imsi told himsi
    obtain ⟨name, hcached⟩ := Option.ne_none_iff_exists'.1 hcached
    exact (hnot imsi name hdirty himsi hcached).elim

theorem Agrees.adoptName (h : ledger.Agrees) (hcard : known ledger.cardName = none)
    (hname : name ≠ "") : (ledger.adoptName name).Agrees := by
  simp only [Ledger.adoptName]
  split
  · exact h
  · refine AgreesOnCard.persistName ⟨h.imsi, fun other hother => ?_⟩ (.inr ⟨rfl, ?_⟩)
    · exact absurd (hcard.symm.trans hother) (Option.some_ne_none other).symm
    · exact Option.ne_none_iff_exists'.2 ⟨name, known_some hname⟩

theorem Agrees.adoptHomeOperator (h : ledger.Agrees) (modem : Modem) :
    (ledger.adoptHomeOperator modem).Agrees := by
  simp only [Ledger.adoptHomeOperator]
  cases hhome : modem.homeOperator? with
  | none => exact h
  | some name =>
    dsimp only
    split
    case isTrue hcard => exact h.adoptName hcard (Modem.ne_empty_of_homeOperator? hhome)
    case isFalse => exact h

theorem Agrees.observeCardName (h : ledger.Agrees) (modem : Modem) :
    (ledger.observeCardName modem).Agrees := by
  simp only [Ledger.observeCardName]
  cases hspn : known modem.spn with
  | none => exact h
  | some name =>
    have hknown : known (some name) = some name := known_some (known_eq_some_iff.1 hspn).2
    simp only [adoptCardName]
    split
    · exact h
    · refine AgreesOnCard.persistName ⟨h.imsi, fun other hother => ?_⟩ (.inr ⟨rfl, ?_⟩)
      · exact (known_eq_some_iff.1 hother).1
      · exact Option.ne_none_iff_exists'.2 ⟨name, hknown⟩

/-- After the name was recalled, it agrees with the cache. -/
theorem AgreesOnCard.recallName (h : ledger.AgreesOnCard) : ledger.recallName.Agrees := by
  rcases recallName_cases ledger with
    ⟨hecho, hrecall⟩ | ⟨imsi, told, himsi, htold, -, hrecall⟩
  · rw [hrecall]
    exact ⟨h, hecho⟩
  · rw [hrecall]
    split
    case isTrue hcard =>
      refine ⟨⟨h.imsi, fun name hname => ?_⟩, fun other told' hother htold' => ?_⟩
      · exact absurd (hcard.symm.trans hname) (Option.some_ne_none name).symm
      · obtain rfl : imsi = other := Option.some.inj (himsi.symm.trans hother)
        exact htold.symm.trans htold'
    case isFalse hcard =>
      obtain ⟨name, hname⟩ := Option.ne_none_iff_exists'.1 hcard
      have hcached : known ledger.cachedName = some name := by
        rw [h.cardName name hname]
        exact known_some (known_eq_some_iff.1 hname).2
      exact AgreesOnCard.persistName ⟨h.imsi, h.cardName⟩
        (.inr ⟨rfl, Option.ne_none_iff_exists'.2 ⟨name, hcached⟩⟩)

theorem Agrees.observeIccid (h : ledger.Agrees) (modem : Modem) :
    (ledger.observeIccid modem).Agrees := by
  by_cases hsame : ledger.iccid = known modem.iccid
  · rw [show ledger.observeIccid modem = ledger from if_pos hsame]
    exact h
  cases hshown : known modem.iccid with
  | none =>
    simp only [Ledger.observeIccid]
    rw [if_neg hsame, hshown]
    exact ⟨⟨fun iccid _ hiccid => absurd hiccid.symm (Option.some_ne_none iccid),
      fun name hname => absurd hname.symm (Option.some_ne_none name)⟩,
      fun imsi _ himsi => absurd himsi.symm (Option.some_ne_none imsi)⟩
  | some iccid =>
    have hknown : known (some iccid) = some iccid := known_some (known_eq_some_iff.1 hshown).2
    rcases observeIccid_of_new hshown (by rwa [hshown] at hsame) with
      ⟨hecho, hobserve⟩ | ⟨told, htold, -, hobserve⟩
    · rw [hobserve]
      refine AgreesOnCard.recallName ⟨fun other told hother htold => hecho told ?_, h.cardName⟩
      rwa [Option.some.inj (hknown.symm.trans hother)]
    · rw [hobserve]
      refine AgreesOnCard.recallName ⟨fun other told' hother htold' => ?_, h.cardName⟩
      rw [← Option.some.inj (hknown.symm.trans hother)] at htold'
      exact htold.symm.trans htold'

/-- Once another subscription was saved, the cache tells it for the card. -/
theorem Moved.agreesOnCard {moved : Ledger} (h : Moved imsi ledger moved)
    (hcard : ∀ name, known ledger.cardName = some name → ledger.cachedName = some name) :
    moved.AgreesOnCard where
  imsi iccid told hiccid htold := by
    rw [h.iccid_eq] at hiccid
    rw [h.imsiOf iccid hiccid] at htold
    exact h.imsi_eq.trans (known_eq_some_iff.1 htold).1
  cardName name hname := by
    rw [h.cardName_eq] at hname
    exact h.cachedName_eq.trans (hcard name hname)

/-- If another subscription is reported than the one known, it is saved, and then the name is
settled. -/
theorem observeImsi_cases (modem : Modem) (ledger : Ledger) :
    (ledger.EchoesImsi modem ∧ ledger.observeImsi modem = ledger) ∨
      ∃ imsi moved, known modem.imsi = some imsi ∧ ledger.imsi ≠ some imsi ∧
        Moved imsi ledger moved ∧ ledger.observeImsi modem = moved.recallName.persistName := by
  by_cases hecho : ledger.EchoesImsi modem
  · exact .inl ⟨hecho, observeImsi_of_echo hecho⟩
  · simp only [EchoesImsi, not_forall] at hecho
    obtain ⟨imsi, hreported, hnew⟩ := hecho
    obtain ⟨moved, hmoved, hadopt⟩ := adoptImsi_eq (known_eq_some_iff.1 hreported).2 hnew
    refine .inr ⟨imsi, moved, hreported, hnew, hmoved, ?_⟩
    simp only [Ledger.observeImsi]
    rw [hreported]
    exact hadopt

theorem Agrees.observeImsi (h : ledger.Agrees) (modem : Modem) :
    (ledger.observeImsi modem).Agrees := by
  rcases observeImsi_cases modem ledger with ⟨-, hobserve⟩ | ⟨imsi, moved, -, -, hmoved, hobserve⟩
  · rw [hobserve]
    exact h
  · have hrecall := (hmoved.agreesOnCard h.cardName).recallName
    rw [hobserve]
    exact hrecall.toAgreesOnCard.persistName (.inl hrecall.name)

theorem Agrees.observeAll (h : ledger.Agrees) (modem : Modem) : (ledger.observeAll modem).Agrees :=
  (((h.observeIccid modem).adoptHomeOperator modem).observeImsi modem).observeCardName modem
    |>.adoptHomeOperator modem

/-- Each call keeps the agreement. -/
theorem Agrees.answer (h : ledger.Agrees) (attached : Bool) (modem : Modem) (call : Call) :
    (ledger.answer attached modem call).Agrees := by
  cases call with
  | resync => exact h.observeAll modem
  | report change =>
    cases change with
    | iccid => exact h.observeIccid modem
    | imsi => exact h.observeImsi modem
    | spn => exact h.observeCardName modem
    | network => exact h.adoptHomeOperator modem
    | networkStatus =>
      simp only [Ledger.answer]
      split
      · exact h.adoptHomeOperator modem
      · exact h

/-! ### Reading everything -/

/-- The subscription that is tracked once the serial number was observed. -/
def recalled (iccid : String) (ledger : Ledger) : Option String :=
  known (ledger.entries (.imsiOf iccid)) <|> ledger.imsi

theorem recalled_of_echo (h : ∀ told, known (ledger.entries (.imsiOf iccid)) = some told →
    ledger.imsi = some told) : ledger.recalled iccid = ledger.imsi := by
  simp only [recalled]
  cases htold : known (ledger.entries (.imsiOf iccid)) with
  | none => rfl
  | some told => exact (h told htold).symm

/-- Whether the serial number is a new one or not, the subscription is recalled for it, and then the
name. -/
theorem Agrees.observeIccid_eq (h : ledger.Agrees) (hshown : known modem.iccid = some iccid) :
    ∃ imsiDirty, ledger.observeIccid modem = Ledger.recallName
      { ledger with iccid := some iccid, imsi := ledger.recalled iccid, imsiDirty } := by
  by_cases hsame : ledger.iccid = some iccid
  · have hknown : known ledger.iccid = some iccid := by
      rw [hsame]
      exact known_some (known_eq_some_iff.1 hshown).2
    have hobserve : ledger.observeIccid modem = ledger := if_pos (hsame.trans hshown.symm)
    refine ⟨ledger.imsiDirty, ?_⟩
    rw [hobserve, recalled_of_echo fun told => h.imsi iccid told hknown, ← hsame]
    exact (recallName_of_echo h.name).symm
  · rcases observeIccid_of_new hshown hsame with ⟨hecho, hobserve⟩ | ⟨told, htold, -, hobserve⟩
    · refine ⟨ledger.imsiDirty, ?_⟩
      rw [hobserve, recalled_of_echo hecho]
    · refine ⟨false, ?_⟩
      rw [hobserve, recalled, htold]
      rfl

/-- The subscription shown is known already, but the cache tells none for the card. -/
structure SkipsImsi (iccid imsi : String) (ledger : Ledger) : Prop where
  /-- The cache tells no subscription for the card. -/
  untold : known (ledger.entries (.imsiOf iccid)) = none
  /-- The one shown is known. -/
  same : ledger.imsi = some imsi

/-- A reported subscription is saved for the card, if it is another one. -/
theorem entries_observeImsi (hiccid : known ledger.iccid = some iccid)
    (himsi : known modem.imsi = some imsi) :
    (ledger.observeImsi modem).entries (.imsiOf iccid) =
      if ledger.imsi = some imsi then ledger.entries (.imsiOf iccid) else some imsi := by
  rcases observeImsi_cases modem ledger with
    ⟨hecho, hobserve⟩ | ⟨reported, moved, hreported, hnew, hmoved, hobserve⟩
  · rw [hobserve, if_pos (hecho imsi himsi)]
  · obtain rfl : imsi = reported := Option.some.inj (himsi.symm.trans hreported)
    rw [hobserve, if_neg hnew, NameSteps.refl.recallName.persistName.imsiOf_eq]
    exact hmoved.imsiOf iccid hiccid

/-- After everything was read, the cache tells the subscription for the card, unless it was
skipped. -/
theorem Agrees.imsi_saved_iff (h : ledger.Agrees) (hiccid : known modem.iccid = some iccid)
    (himsi : known modem.imsi = some imsi) :
    (ledger.observeAll modem).entries (.imsiOf iccid) = some imsi ↔
      ¬ ledger.SkipsImsi iccid imsi := by
  have hne : imsi ≠ "" := (known_eq_some_iff.1 himsi).2
  obtain ⟨imsiDirty, hobserve⟩ := h.observeIccid_eq hiccid
  simp only [Ledger.observeAll]
  rw [hobserve, (NameSteps.refl.observeCardName modem).adoptHomeOperator modem |>.imsiOf_eq]
  generalize hbegun : { ledger with
    iccid := some iccid, imsi := ledger.recalled iccid, imsiDirty } = begun
  have hseen : NameSteps begun (begun.recallName.adoptHomeOperator modem) :=
    NameSteps.refl.recallName.adoptHomeOperator modem
  have hcard : known (begun.recallName.adoptHomeOperator modem).iccid = some iccid := by
    rw [hseen.renames.iccid_eq, ← hbegun]
    exact known_some (known_eq_some_iff.1 hiccid).2
  rw [entries_observeImsi hcard himsi, hseen.imsiOf_eq, hseen.renames.imsi_eq, ← hbegun]
  show (if ledger.recalled iccid = some imsi then ledger.entries (.imsiOf iccid) else some imsi) =
    some imsi ↔ _
  -- what the cache tells for the card is tracked by now, and is replaced if another one is reported
  cases htold : known (ledger.entries (.imsiOf iccid)) with
  | some told =>
    have hrecalled : ledger.recalled iccid = some told := by rw [recalled, htold]; rfl
    refine iff_of_true ?_ fun hskips => Option.some_ne_none told (htold.symm.trans hskips.untold)
    split
    case isTrue hsame =>
      rw [(known_eq_some_iff.1 htold).1, ← hrecalled]
      exact hsame
    case isFalse => rfl
  | none =>
    have hrecalled : ledger.recalled iccid = ledger.imsi := by rw [recalled, htold]; rfl
    rw [hrecalled]
    split
    case isTrue hsame =>
      refine iff_of_false (fun hentry => ?_) fun hsaved => hsaved ⟨htold, hsame⟩
      rw [hentry, known_some hne] at htold
      exact Option.some_ne_none imsi htold
    case isFalse hnew => exact iff_of_true rfl fun hskips => hnew hskips.same

/-! ### Reading the name -/

theorem cardName_persistName (ledger : Ledger) : ledger.persistName.cardName = ledger.cardName := by
  simp only [Ledger.persistName]
  split
  · rfl
  · rfl

theorem cachedName_persistName (ledger : Ledger) :
    ledger.persistName.cachedName = ledger.cachedName := by
  simp only [Ledger.persistName]
  split
  · rfl
  · rfl

theorem cardName_recallName (ledger : Ledger) : ledger.recallName.cardName = ledger.cardName := by
  rcases recallName_cases ledger with ⟨-, hrecall⟩ | ⟨_, _, -, -, -, hrecall⟩
  · rw [hrecall]
  · rw [hrecall]
    split
    · rfl
    · exact cardName_persistName _

theorem cardName_adoptHomeOperator (modem : Modem) (ledger : Ledger) :
    (ledger.adoptHomeOperator modem).cardName = ledger.cardName := by
  simp only [Ledger.adoptHomeOperator]
  cases modem.homeOperator? with
  | none => rfl
  | some name =>
    dsimp only
    split
    · simp only [Ledger.adoptName]
      split
      · rfl
      · exact cardName_persistName _
    · rfl

theorem cardName_observeImsi (modem : Modem) (ledger : Ledger) :
    (ledger.observeImsi modem).cardName = ledger.cardName := by
  rcases observeImsi_cases modem ledger with ⟨-, hobserve⟩ | ⟨_, moved, -, -, hmoved, hobserve⟩
  · rw [hobserve]
  · rw [hobserve, cardName_persistName, cardName_recallName, hmoved.cardName_eq]

/-- A name on the card counts for more than the operator's. -/
theorem adoptHomeOperator_of_cardName (h : known ledger.cardName ≠ none) (modem : Modem) :
    ledger.adoptHomeOperator modem = ledger :=
  adoptHomeOperator_of_echo fun _ _ hnone => absurd hnone h

/-- To recall a name overwrites one at most. -/
theorem tells_recallName_iff {entry : Cache.Entry} :
    known (ledger.recallName.entries entry) ≠ none ↔ known (ledger.entries entry) ≠ none := by
  refine ⟨fun htold => ?_, NameSteps.refl.recallName.tells⟩
  rcases recallName_cases ledger with ⟨-, hrecall⟩ | ⟨imsi, told, himsi, htold', -, hrecall⟩
  · rwa [hrecall] at htold
  · by_cases hentry : entry = .nameOf imsi
    · rw [hentry, htold']
      exact Option.some_ne_none told
    · have hsame : ledger.recallName.entries entry = ledger.entries entry := by
        rw [hrecall]
        split
        · rfl
        · refine entries_persistName_of_ne fun other hother => ?_
          obtain rfl : imsi = other := Option.some.inj (himsi.symm.trans hother)
          exact hentry
      rwa [hsame] at htold

/-- With a name on the card, a name that was dirty stays so, unless the cache tells another one. -/
theorem nameDirty_recallName (hcard : known ledger.cardName ≠ none)
    (hname : known ledger.cachedName = some name) :
    ledger.recallName.nameDirty = true ↔ ledger.nameDirty = true ∧ ledger.EchoesName := by
  rcases recallName_cases ledger with
    ⟨hecho, hrecall⟩ | ⟨imsi, told, himsi, htold, hnew, hrecall⟩
  · rw [hrecall, and_iff_left hecho]
  · refine iff_of_false ?_ fun h => hnew (h.2 imsi told himsi htold)
    have hsaved : { ledger with nameDirty := true }.persistName =
        { { ledger with nameDirty := true }.save (.nameOf imsi) name with nameDirty := false } :=
      persistName_of_known rfl himsi hname
    rw [hrecall, if_neg hcard, hsaved]
    exact Bool.false_ne_true

/-- A dirty name is saved for another subscription, even if the cache tells none for it. -/
theorem tells_observeImsi_iff (himsi : known modem.imsi = some imsi)
    (hname : known ledger.cachedName = some name) :
    known ((ledger.observeImsi modem).entries (.nameOf imsi)) ≠ none ↔
      known (ledger.entries (.nameOf imsi)) ≠ none ∨
        ledger.imsi ≠ some imsi ∧ ledger.nameDirty = true := by
  rcases observeImsi_cases modem ledger with
    ⟨hecho, hobserve⟩ | ⟨reported, moved, hreported, hnew, hmoved, hobserve⟩
  · rw [hobserve, or_iff_left fun h => h.1 (hecho imsi himsi)]
  obtain rfl : imsi = reported := Option.some.inj (himsi.symm.trans hreported)
  rw [hobserve, and_iff_right hnew, ← hmoved.nameOf imsi, ← hmoved.nameDirty_eq]
  by_cases htold : known (moved.entries (.nameOf imsi)) = none
  · have hknown : known moved.imsi = some imsi := by
      rw [hmoved.imsi_eq, known_some (known_eq_some_iff.1 himsi).2]
    have hcached : known moved.cachedName = some name := by rw [hmoved.cachedName_eq, hname]
    have hecho : moved.EchoesName := fun other told hother htold' => by
      obtain rfl : imsi = other := Option.some.inj (hknown.symm.trans hother)
      exact absurd (htold.symm.trans htold') (Option.some_ne_none told).symm
    rw [recallName_of_echo hecho, or_iff_right (not_not_intro htold)]
    cases hdirty : moved.nameDirty with
    | false =>
      rw [persistName_of_clean hdirty]
      exact iff_of_false (not_not_intro htold) Bool.false_ne_true
    | true =>
      rw [persistName_of_known hdirty hknown hcached]
      refine iff_of_true ?_ rfl
      show known (Function.update moved.entries _ (some name) _) ≠ none
      rw [Function.update_self, known_some (known_eq_some_iff.1 hname).2]
      exact Option.some_ne_none name
  · exact iff_of_true (NameSteps.refl.recallName.persistName.tells htold) (.inl htold)

/-- The name shown is known already, but the cache tells none for the subscription, and it does not
wait to be saved for it. -/
structure SkipsName (iccid imsi name : String) (ledger : Ledger) : Prop where
  /-- The cache tells no name for the subscription shown. -/
  untold : known (ledger.entries (.nameOf imsi)) = none
  /-- The name shown is the one known of the card. -/
  same : ledger.cardName = some name
  /-- The subscription is tracked already, if only since it was recalled. Or the name is not dirty,
  or it is saved for the subscription tracked so far, for which the cache tells another one. -/
  settled : ledger.recalled iccid = some imsi ∨ ledger.nameDirty = false ∨
    ¬ EchoesName { ledger with imsi := ledger.recalled iccid }

theorem imsi_observeImsi (ledger : Ledger) (himsi : known modem.imsi = some imsi) :
    (ledger.observeImsi modem).imsi = some imsi := by
  rcases observeImsi_cases modem ledger with
    ⟨hecho, hobserve⟩ | ⟨reported, moved, hreported, -, hmoved, hobserve⟩
  · rw [hobserve]
    exact hecho imsi himsi
  · rw [hobserve, NameSteps.refl.recallName.persistName.renames.imsi_eq, hmoved.imsi_eq,
      ← hreported, himsi]

theorem iccid_observeImsi (modem : Modem) (ledger : Ledger) :
    (ledger.observeImsi modem).iccid = ledger.iccid := by
  rcases observeImsi_cases modem ledger with ⟨-, hobserve⟩ | ⟨_, _, -, -, hmoved, hobserve⟩
  · rw [hobserve]
  · rw [hobserve, NameSteps.refl.recallName.persistName.renames.iccid_eq, hmoved.iccid_eq]

/-- Since the cache tells no other name, it tells the one known if it tells any. -/
theorem Agrees.nameOf_eq_iff (h : ledger.Agrees) (himsi : known ledger.imsi = some imsi)
    (hname : known ledger.cachedName = some name) :
    ledger.entries (.nameOf imsi) = some name ↔ known (ledger.entries (.nameOf imsi)) ≠ none := by
  obtain ⟨hcached, hne⟩ := known_eq_some_iff.1 hname
  constructor
  · intro htold
    rw [htold, known_some hne]
    exact Option.some_ne_none name
  · intro htold
    obtain ⟨told, htold⟩ := Option.ne_none_iff_exists'.1 htold
    rw [(known_eq_some_iff.1 htold).1, ← h.name imsi told himsi htold]
    exact hcached

/-- A name on the card that is known already leaves it to the subscription what is saved. -/
theorem observeNames_of_same (hname : known modem.spn = some name)
    (hsame : ledger.cardName = some name) :
    (ledger.observeCardName modem).adoptHomeOperator modem = ledger := by
  have hecho : ledger.EchoesCardName modem := fun reported hreported => by
    rw [hsame, ← hname, hreported]
  rw [observeCardName_of_echo hecho]
  refine adoptHomeOperator_of_cardName ?_ modem
  rw [hsame, known_some (known_eq_some_iff.1 hname).2]
  exact Option.some_ne_none name

/-- If the name is known already, then the cache tells it if it told any before, or if the name was
dirty until the subscription was observed. -/
theorem Agrees.known_name_saved_iff (h : ledger.Agrees) (hiccid : known modem.iccid = some iccid)
    (himsi : known modem.imsi = some imsi) (hname : known modem.spn = some name)
    (hsame : ledger.cardName = some name) :
    (ledger.observeAll modem).entries (.nameOf imsi) = some name ↔
      ¬ ledger.SkipsName iccid imsi name := by
  have hknown {after : Ledger} (hcard : after.cardName = some name) :
      known after.cardName = some name := by
    rw [hcard]
    exact known_some (known_eq_some_iff.1 hname).2
  have hcached {after : Ledger} (hafter : after.Agrees) (hcard : after.cardName = some name) :
      known after.cachedName = some name := by
    rw [hafter.cardName name (hknown hcard)]
    exact known_some (known_eq_some_iff.1 hname).2
  obtain ⟨imsiDirty, hobserve⟩ := h.observeIccid_eq hiccid
  have hseen := h.observeIccid modem
  simp only [Ledger.observeAll]
  rw [hobserve] at hseen ⊢
  generalize hbegun : { ledger with
    iccid := some iccid, imsi := ledger.recalled iccid, imsiDirty } = begun at hseen ⊢
  have hcard : begun.recallName.cardName = some name := by
    rw [cardName_recallName, ← hbegun]
    exact hsame
  have himsi' : begun.recallName.imsi = ledger.recalled iccid := by
    rw [NameSteps.refl.recallName.renames.imsi_eq, ← hbegun]
  have hdirty : begun.recallName.nameDirty = true ↔ ledger.nameDirty = true ∧
      EchoesName { ledger with imsi := ledger.recalled iccid } := by
    have hcached' : known ledger.cachedName = some name := hcached h hsame
    rw [← hbegun]
    exact nameDirty_recallName (Option.ne_none_iff_exists'.2 ⟨name, hknown hsame⟩) hcached'
  have hlast := hseen.observeImsi modem
  have hcard' : (begun.recallName.observeImsi modem).cardName = some name := by
    rw [cardName_observeImsi, hcard]
  have hreported : known (begun.recallName.observeImsi modem).imsi = some imsi := by
    rw [imsi_observeImsi _ himsi]
    exact known_some (known_eq_some_iff.1 himsi).2
  -- the card's name is known, so only the subscription that is reported can have something saved
  rw [adoptHomeOperator_of_cardName (Option.ne_none_iff_exists'.2 ⟨name, hknown hcard⟩),
    observeNames_of_same hname hcard', hlast.nameOf_eq_iff hreported (hcached hlast hcard'),
    tells_observeImsi_iff himsi (hcached hseen hcard), tells_recallName_iff, hdirty, himsi',
    ← hbegun]
  show known (ledger.entries (.nameOf imsi)) ≠ none ∨ _ ↔ _
  constructor
  · rintro (htold | ⟨hother, hdirty, hecho⟩) ⟨huntold, -, hsettled⟩
    · exact htold huntold
    · rcases hsettled with hrecalled | hclean | hnew
      · exact hother hrecalled
      · exact Bool.false_ne_true (hclean.symm.trans hdirty)
      · exact hnew hecho
  · intro hsaved
    by_cases htold : known (ledger.entries (.nameOf imsi)) = none
    · have hwaits := mt (SkipsName.mk htold hsame) hsaved
      rw [not_or, not_or, Bool.not_eq_false, not_not] at hwaits
      exact .inr hwaits
    · exact .inl htold

/-- After everything was read, the cache tells the name of the subscription, unless it was
skipped. -/
theorem Agrees.name_saved_iff (h : ledger.Agrees) (hiccid : known modem.iccid = some iccid)
    (himsi : known modem.imsi = some imsi) (hname : known modem.spn = some name) :
    (ledger.observeAll modem).entries (.nameOf imsi) = some name ↔
      ¬ ledger.SkipsName iccid imsi name := by
  by_cases hsame : ledger.cardName = some name
  · exact h.known_name_saved_iff hiccid himsi hname hsame
  · -- a new name is saved in any case
    refine iff_of_true ?_ fun hskips => hsame hskips.same
    obtain ⟨imsiDirty, hobserve⟩ := h.observeIccid_eq hiccid
    simp only [Ledger.observeAll]
    generalize hseen : (ledger.observeIccid modem).adoptHomeOperator modem = seen
    have hcard : (seen.observeImsi modem).cardName ≠ some name := by
      rw [cardName_observeImsi, ← hseen, cardName_adoptHomeOperator, hobserve, cardName_recallName]
      exact hsame
    have hreported : known (seen.observeImsi modem).imsi = some imsi := by
      rw [imsi_observeImsi _ himsi]
      exact known_some (known_eq_some_iff.1 himsi).2
    rw [observeNames_of_spn hreported hcard hname]
    exact Function.update_self _ _ _

end Ledger

/-! ### Runs -/

/-- A memory that can be reached could be reached all the time. -/
theorem Cache.Uses.available_before {cfg : Config} {store later : VolatileStore}
    (h : Cache.Uses cfg store later) (hlater : later.available = true) :
    store.available = true := by
  by_contra hstore
  have hshown := Cache.Uses.shown VolatileStore.failureSign h (Bool.eq_false_iff.2 hstore)
  exact Bool.false_ne_true (hshown.symm.trans hlater)

variable {cfg : Config} {run : Run VolatileStore} {modem : Modem} {iccid imsi name : String}

/-- Over a memory that can be reached, what a tracker knows agrees with the cache. -/
theorem Reachable.agrees (h : Reachable cfg run) (havailable : run.store.available = true) :
    (run.ledger cfg).Agrees := by
  induction h with
  | start modem store =>
    have hstore := (Run.uses_start cfg modem store).available_before havailable
    rw [Run.ledger_start hstore]
    exact (Ledger.agrees_blank _ _).observeAll modem
  | @perform run modem call h ih =>
    have hstore := (Run.uses_perform cfg modem call run).available_before havailable
    rw [h.ledger_perform hstore]
    exact (ih hstore).answer _ modem call

/-- **What is new to the tracker is saved.** Over a memory that can be reached at all times, let
everything be read from a modem that shows a serial number, a subscription and a name. Then the
cache tells the subscription for the serial number, unless the tracker knew it before and the cache
told none. And it tells the name for the subscription, unless the card was known by that name, the
cache told none for the subscription, and none waited to be saved for it. -/
theorem resync_saves_iff (h : Reachable cfg run) (havailable : run.store.available = true)
    (hiccid : known modem.iccid = some iccid) (himsi : known modem.imsi = some imsi)
    (hname : known modem.spn = some name) :
    let after := run.resync cfg modem
    (after.store.cached cfg (.imsiOf iccid) = some imsi ↔
        ¬ (run.ledger cfg).SkipsImsi iccid imsi) ∧
      (after.store.cached cfg (.nameOf imsi) = some name ↔
        ¬ (run.ledger cfg).SkipsName iccid imsi name) := by
  intro after
  have hledger : after.ledger cfg = (run.ledger cfg).observeAll modem :=
    h.ledger_perform havailable modem .resync
  have hentries : after.store.cached cfg = ((run.ledger cfg).observeAll modem).entries :=
    congrArg Ledger.entries hledger
  rw [hentries]
  exact ⟨(h.agrees havailable).imsi_saved_iff hiccid himsi,
    (h.agrees havailable).name_saved_iff hiccid himsi hname⟩

/-- One card is taken out, and another one with the same name put in. -/
theorem resync_saves_next_card :
    let card : Modem :=
      { path := "/ril_0", iccid := some "8901", imsi := some "00101", spn := some "Card" }
    let next : Modem := { card with iccid := some "8902", imsi := some "00102" }
    let run := (Run.start {} card (∅ : VolatileStore)).resync {} { path := "/ril_0" }
    let after := run.resync {} next
    Reachable {} run ∧ run.store.available = true ∧ known next.iccid = some "8902" ∧
      known next.imsi = some "00102" ∧ known next.spn = some "Card" ∧
      after.store.cached {} (.imsiOf "8902") = some "00102" ∧
      after.store.cached {} (.nameOf "00102") = some "Card" := by
  intro card next run after
  have hrun : Reachable {} run := .perform { path := "/ril_0" } .resync (.start card ∅)
  have havailable : run.store.available = true := by decide +kernel
  have hiccid : known next.iccid = some "8902" := by decide +kernel
  have himsi : known next.imsi = some "00102" := by decide +kernel
  have hname : known next.spn = some "Card" := by decide +kernel
  have hnone : (run.ledger {}).imsi ≠ some "00102" ∧ (run.ledger {}).cardName ≠ some "Card" := by
    decide +kernel
  obtain ⟨hsaved, hnamed⟩ := resync_saves_iff hrun havailable hiccid himsi hname
  exact ⟨hrun, havailable, hiccid, himsi, hname, hsaved.2 fun hskips => hnone.1 hskips.same,
    hnamed.2 fun hskips => hnone.2 hskips.same⟩

/-- The card comes to report another subscription under the same name. The name is not saved for
it. -/
theorem resync_skips_name_of_new_subscription :
    let card : Modem :=
      { path := "/ril_0", iccid := some "8901", imsi := some "00101", spn := some "Card" }
    let other : Modem := { card with imsi := some "00102" }
    let run := Run.start {} card (∅ : VolatileStore)
    let after := run.resync {} other
    Reachable {} run ∧ run.store.available = true ∧
      known other.iccid = some "8901" ∧ known other.imsi = some "00102" ∧
      known other.spn = some "Card" ∧
      after.store.cached {} (.imsiOf "8901") = some "00102" ∧
      after.store.cached {} (.nameOf "00102") = none := by
  intro card other run after
  refine ⟨.start card ∅, ?_⟩
  decide +kernel

end SimIdentity
