import Mathlib.Data.List.ReduceOption
import SimIdentity.Proofs.Outline
import SimIdentity.Store.Unreliable

/-!
# Detours

Where only one step of a call can change a part of the identity, a signal is sent exactly if the
part is another one afterwards (`reports_announce_changes`). There are two calls in which several
steps can. When a card was put in, the cache tells its subscription first, and with it comes the
fallback name, and then it tells a name. And when everything is read, what the cache has told gives
way to what the card tells itself. So a part may come back to what it was by a detour, and then it
is announced although it is the same.

## What is proved

`signals_tell_of_detours`: over any memory, in the two calls a signal is sent exactly for a part
that is another one afterwards or has taken a detour. A subscription takes one exactly if another
one goes with the serial number (`Outline.imsiOfCard`), and a name exactly if the card was lost,
another name is found on the way, or none is and the fallback name is another one
(`Outline.SpnDetour`).

Neither of them is a matter of what the stores refuse: `same_identity_announced` has a memory that
refuses nothing.
-/

namespace SimIdentity

namespace Outline

section Detours

variable (modem : Modem) (told : Cache.Entry → Option String) (outline : Outline)

/-- The subscription that goes with the serial number that the modem shows. Without a card there is
none, and with another card it is the one that the cache tells, if it tells one. -/
def imsiOfCard : Option String :=
  if outline.iccid = known modem.iccid then outline.imsi
  else (known modem.iccid).bind fun iccid => told (.imsiOf iccid) <|> outline.imsi

/-- The fallback name is all there is to show, and the modem gives another one. -/
structure NewFallback : Prop where
  /-- The card has no name. -/
  cardName_eq : outline.cardName = none
  /-- And there is none for the cache. -/
  cachedName_eq : outline.cachedName = none
  /-- The fallback name is another one. -/
  fallback_ne : outline.fallback ≠ modem.fallbackName

/-- The name that the cache tells when another card was put in. -/
def recalledName? : Option String :=
  if outline.iccid = known modem.iccid then none
  else (outline.imsiOfCard modem told).bind fun imsi => told (.nameOf imsi)

/-- The name that the cache tells when the modem reports another subscription. -/
def reportedName? : Option String :=
  if outline.imsiOfCard modem told = known modem.imsi then none
  else (known modem.imsi).bind fun imsi => told (.nameOf imsi)

/-- The names that are found while everything is read, other than that of the card. -/
def found : List String :=
  [outline.recalledName? modem told, modem.homeOperator?,
    outline.reportedName? modem told].reduceOption

/-- How the name to show becomes another one on the way, while everything is read. -/
inductive SpnDetour : Prop where
  /-- The card is gone, and with it the name. -/
  | lost : outline.iccid ≠ none → known modem.iccid = none → outline.part .spn ≠ none → SpnDetour
  /-- The card has no name, and another one than the name that is shown is found. -/
  | found {name : String} : outline.cardName = none → name ∈ outline.found modem told →
      outline.part .spn ≠ some name → SpnDetour
  /-- Another card was put in, and the fallback name comes with its subscription. -/
  | fallback : outline.NewFallback modem → known modem.iccid ≠ none →
      outline.imsiOfCard modem told ≠ outline.imsi → SpnDetour
  /-- The fallback name comes with what the modem reports, and no name was found. -/
  | unnamed : outline.NewFallback modem → outline.found modem told = [] → SpnDetour

/-- What is known once the cache has told the subscription for another card. -/
def putIn : Outline :=
  { outline with
    iccid := known modem.iccid
    imsi := outline.imsiOfCard modem told
    fallback := if outline.imsiOfCard modem told = outline.imsi then outline.fallback
      else modem.fallbackName }

end Detours

variable {modem : Modem} {told : Cache.Entry → Option String} {outline moment : Outline}

/-! ### What is shown at one moment -/

theorem part_of_cardName {name : String} (hcard : outline.cardName = some name) (hne : name ≠ "") :
    outline.part .spn = some name := by
  show publicName? outline.cardName outline.cachedName outline.fallback = some name
  rw [hcard]
  exact publicName?_of_card hne _ _

theorem part_of_cachedName {name : String} (hcard : outline.cardName = none)
    (hname : outline.cachedName = some name) (hne : name ≠ "") : outline.part .spn = some name := by
  show publicName? outline.cardName outline.cachedName outline.fallback = some name
  rw [hcard, hname]
  exact publicName?_of_cached hne _

theorem part_of_unnamed (hcard : outline.cardName = none) (hname : outline.cachedName = none) :
    outline.part .spn = known (some outline.fallback.text) := by
  show publicName? outline.cardName outline.cachedName outline.fallback = _
  rw [hcard, hname]
  exact publicName?_of_unnamed _

/-- Fallback names that are shown alike are the same. -/
theorem fallback_eq_of_known_eq {fallback fallback' : FallbackName}
    (h : known (some fallback.text) = known (some fallback'.text)) : fallback = fallback' := by
  have htext : fallback.text = fallback'.text := by
    by_cases hempty : fallback.text = ""
    · rw [hempty, known_empty] at h
      by_contra hne
      rw [known_some fun h' => hne (hempty.trans h'.symm)] at h
      cases h
    · rw [known_some hempty] at h
      exact (Option.some.inj (known_eq_some_iff.1 h.symm).1).symm
  cases fallback
  cases fallback'
  cases htext
  rfl

/-- With the same names, it takes another fallback name for another one to be shown, and that there
is no name besides. -/
theorem part_ne_iff_of_same_names (hcard : outline.cardName ≠ some "")
    (hname : outline.cachedName ≠ some "") (hsameCard : moment.cardName = outline.cardName)
    (hsameName : moment.cachedName = outline.cachedName) :
    moment.part .spn ≠ outline.part .spn ↔
      outline.cardName = none ∧ outline.cachedName = none ∧ outline.fallback ≠ moment.fallback := by
  cases hcardName : outline.cardName with
  | some name =>
    have hne : name ≠ "" := fun h => hcard (h ▸ hcardName)
    rw [part_of_cardName hcardName hne, part_of_cardName (hsameCard.trans hcardName) hne]
    simp
  | none =>
    rw [hcardName] at hsameCard
    cases hcachedName : outline.cachedName with
    | some name =>
      have hne : name ≠ "" := fun h => hname (h ▸ hcachedName)
      rw [part_of_cachedName hcardName hcachedName hne,
        part_of_cachedName hsameCard (hsameName.trans hcachedName) hne]
      simp
    | none =>
      rw [part_of_unnamed hcardName hcachedName,
        part_of_unnamed hsameCard (hsameName.trans hcachedName)]
      constructor
      · exact fun hne => ⟨rfl, rfl, fun hsame => hne (by rw [hsame])⟩
      · exact fun ⟨_, _, hne⟩ hsame => hne (fallback_eq_of_known_eq hsame.symm)

/-! ### What the steps change -/

theorem cachedName_adopt (hcard : outline.cardName = none) (name? : Option String) :
    (outline.adopt name?).cachedName = (name? <|> outline.cachedName) :=
  if_pos hcard

@[simp] theorem cardName_observeImsi (outline : Outline) :
    (outline.observeImsi modem told).cardName = outline.cardName := by
  unfold observeImsi adoptImsi
  cases known modem.imsi with
  | none => rfl
  | some imsi =>
    dsimp only
    split
    · rfl
    · rfl

@[simp] theorem fallback_observeImsi (outline : Outline) :
    (outline.observeImsi modem told).fallback = modem.fallbackName := by
  unfold observeImsi
  cases known modem.imsi with
  | none => rfl
  | some imsi => rfl

/-- The name is another one only if the cache tells one for another subscription. -/
theorem cachedName_observeImsi (hcard : outline.cardName = none) :
    (outline.observeImsi modem told).cachedName =
      ((if outline.imsi = known modem.imsi then none
        else (known modem.imsi).bind fun imsi => told (.nameOf imsi)) <|> outline.cachedName) := by
  unfold observeImsi adoptImsi
  cases known modem.imsi with
  | none => simp [refreshFallback]
  | some imsi =>
    dsimp only
    split
    case isTrue => rfl
    case isFalse => exact cachedName_adopt hcard (told (.nameOf imsi))

@[simp] theorem imsi_observeCardName (outline : Outline) :
    (outline.observeCardName modem).imsi = outline.imsi := by
  unfold observeCardName
  split
  · rfl
  · rfl

/-! ### The outlines on the way -/

theorem withIccid_of_new (hthere : known modem.iccid ≠ none)
    (hnew : outline.iccid ≠ known modem.iccid) :
    outline.withIccid modem told =
      [outline.putIn modem told, (outline.putIn modem told).recallName told] := by
  obtain ⟨iccid, hiccid⟩ := Option.ne_none_iff_exists'.1 hthere
  have himsi : outline.imsiOfCard modem told = (told (.imsiOf iccid) <|> outline.imsi) := by
    unfold imsiOfCard
    rw [if_neg hnew, hiccid]
    rfl
  have hputIn : { outline with iccid := some iccid }.recallImsi modem told iccid =
      outline.putIn modem told := by
    unfold putIn recallImsi
    cases htold : told (.imsiOf iccid) with
    | none => simp [himsi, htold, hiccid]
    | some imsi =>
      by_cases hsame : outline.imsi = some imsi
      · simp [himsi, htold, hiccid, hsame]
      · simp [himsi, htold, hiccid, hsame, Ne.symm hsame, refreshFallback]
  unfold withIccid
  rw [if_neg hnew, hiccid]
  dsimp only
  rw [hputIn]

/-- The card is the same, or it is gone, or it is another one. -/
theorem withIccid_cases (modem : Modem) (told : Cache.Entry → Option String) (outline : Outline) :
    outline.iccid = known modem.iccid ∧ outline.withIccid modem told = [] ∨
      outline.iccid ≠ none ∧ known modem.iccid = none ∧ outline.withIccid modem told = [{}] ∨
        known modem.iccid ≠ none ∧ outline.iccid ≠ known modem.iccid ∧
          outline.withIccid modem told =
            [outline.putIn modem told, (outline.putIn modem told).recallName told] := by
  by_cases hsame : outline.iccid = known modem.iccid
  · exact .inl ⟨hsame, if_pos hsame⟩
  by_cases hgone : known modem.iccid = none
  · refine .inr (.inl ⟨hgone ▸ hsame, hgone, ?_⟩)
    unfold withIccid
    rw [if_neg hsame, hgone]
  · exact .inr (.inr ⟨hgone, hsame, withIccid_of_new hgone hsame⟩)

/-- The outline once the serial number is read is the last one of these, if there are any. -/
theorem afterIccid_cases (modem : Modem) (told : Cache.Entry → Option String) (outline : Outline) :
    outline.iccid = known modem.iccid ∧ outline.afterIccid modem told = outline ∨
      outline.iccid ≠ known modem.iccid ∧
        outline.afterIccid modem told ∈ outline.withIccid modem told := by
  unfold afterIccid
  rcases withIccid_cases modem told outline with
    ⟨hsame, hwith⟩ | ⟨hiccid, hgone, hwith⟩ | ⟨-, hnew, hwith⟩
  · exact .inl ⟨hsame, by rw [hwith]; rfl⟩
  · exact .inr ⟨hgone ▸ hiccid, by simp [hwith]⟩
  · exact .inr ⟨hnew, by simp [hwith]⟩

/-- Each of them is without a card, or with another one before or after the name is looked up. -/
theorem cases_of_mem_withIccid (h : moment ∈ outline.withIccid modem told) :
    outline.iccid ≠ none ∧ known modem.iccid = none ∧ moment = {} ∨
      known modem.iccid ≠ none ∧ outline.iccid ≠ known modem.iccid ∧
        (moment = outline.putIn modem told ∨
          moment = (outline.putIn modem told).recallName told) := by
  rcases withIccid_cases modem told outline with
    ⟨-, hwith⟩ | ⟨hiccid, hgone, hwith⟩ | ⟨hthere, hnew, hwith⟩
  · rw [hwith] at h
    cases h
  · rw [hwith, List.mem_singleton] at h
    exact .inl ⟨hiccid, hgone, h⟩
  · rw [hwith, List.mem_pair] at h
    exact .inr ⟨hthere, hnew, h⟩

/-! ### Detours of the subscription -/

/-- With the serial number comes the subscription that goes with it. -/
theorem imsi_of_mem_withIccid (h : moment ∈ outline.withIccid modem told) :
    moment.imsi = outline.imsiOfCard modem told := by
  rcases cases_of_mem_withIccid h with ⟨hiccid, hgone, rfl⟩ | ⟨-, -, rfl | rfl⟩
  · simp [imsiOfCard, hgone, hiccid]
  · rfl
  · rfl

theorem imsi_afterIccid : (outline.afterIccid modem told).imsi = outline.imsiOfCard modem told := by
  rcases afterIccid_cases modem told outline with ⟨hsame, hafter⟩ | ⟨-, hmem⟩
  · rw [hafter]
    exact (if_pos hsame).symm
  · exact imsi_of_mem_withIccid hmem

@[simp] theorem imsi_afterNetwork :
    (outline.afterNetwork modem told).imsi = outline.imsiOfCard modem told :=
  imsi_afterIccid

@[simp] theorem imsi_afterCardName :
    (outline.afterCardName modem told).imsi = (outline.afterImsi modem told).imsi :=
  imsi_observeCardName _

@[simp] theorem imsi_afterAll :
    (outline.afterAll modem told).imsi = (outline.afterImsi modem told).imsi :=
  imsi_afterCardName

/-- While everything is read the subscription changes twice at most. -/
theorem exists_imsi_ne_iff :
    (∃ moment ∈ outline.withAll modem told, moment.imsi ≠ outline.imsi) ↔
      (outline.afterAll modem told).imsi ≠ outline.imsi ∨
        outline.imsiOfCard modem told ≠ outline.imsi := by
  constructor
  · rintro ⟨moment, hmem, hne⟩
    simp only [withAll, List.mem_append, List.mem_cons, List.not_mem_nil, or_false] at hmem
    rcases hmem with hmem | rfl | rfl | rfl | rfl
    · rw [imsi_of_mem_withIccid hmem] at hne
      exact .inr hne
    · rw [imsi_afterNetwork] at hne
      exact .inr hne
    · rw [← imsi_afterAll] at hne
      exact .inl hne
    · rw [imsi_afterCardName, ← imsi_afterAll] at hne
      exact .inl hne
    · exact .inl hne
  · rintro (hlast | hother)
    · exact ⟨_, by simp [withAll], hlast⟩
    · exact ⟨outline.afterNetwork modem told, by simp [withAll], imsi_afterNetwork ▸ hother⟩

/-! ### Detours of the name -/

/-- With the subscription that the cache tells comes another name only if it was the fallback name
that was shown. -/
theorem part_putIn_ne_iff (hcard : outline.cardName ≠ some "")
    (hname : outline.cachedName ≠ some "") :
    (outline.putIn modem told).part .spn ≠ outline.part .spn ↔
      outline.imsiOfCard modem told ≠ outline.imsi ∧ outline.NewFallback modem := by
  have hsameCard : (outline.putIn modem told).cardName = outline.cardName := rfl
  rw [part_ne_iff_of_same_names hcard hname hsameCard rfl]
  by_cases hsame : outline.imsiOfCard modem told = outline.imsi
  · simp [putIn, hsame]
  · simp only [putIn, hsame, if_false, ne_eq, not_false_eq_true, true_and]
    constructor
    · exact fun ⟨hcardName, hcachedName, hne⟩ => ⟨hcardName, hcachedName, hne⟩
    · exact fun hnew => ⟨hnew.cardName_eq, hnew.cachedName_eq, hnew.fallback_ne⟩

/-- Another serial number shows another name only in the end, or for the fallback name that comes
with the subscription. -/
theorem exists_spn_ne_of_there (hcard : outline.cardName ≠ some "")
    (hname : outline.cachedName ≠ some "") (hthere : known modem.iccid ≠ none) :
    (∃ moment ∈ outline.withIccid modem told, moment.part .spn ≠ outline.part .spn) ↔
      (outline.afterIccid modem told).part .spn ≠ outline.part .spn ∨
        outline.imsiOfCard modem told ≠ outline.imsi ∧ outline.NewFallback modem := by
  rw [← part_putIn_ne_iff hcard hname]
  rcases withIccid_cases modem told outline with
    ⟨hsame, hwith⟩ | ⟨-, hgone, -⟩ | ⟨-, -, hwith⟩
  · have hother : ¬ (outline.putIn modem told).part .spn ≠ outline.part .spn := by
      rw [part_putIn_ne_iff hcard hname]
      exact fun h => h.1 (if_pos hsame)
    simp [afterIccid, hwith, hother]
  · exact absurd hgone hthere
  · simp [afterIccid, hwith, or_comm]

/-! ### The names that are found -/

theorem mem_found_iff {name : String} :
    name ∈ outline.found modem told ↔ outline.recalledName? modem told = some name ∨
      modem.homeOperator? = some name ∨ outline.reportedName? modem told = some name := by
  simp [found, List.reduceOption_mem_iff, eq_comm]

theorem found_eq_nil_iff :
    outline.found modem told = [] ↔ outline.recalledName? modem told = none ∧
      modem.homeOperator? = none ∧ outline.reportedName? modem told = none := by
  simp only [List.eq_nil_iff_forall_not_mem, mem_found_iff, Option.eq_none_iff_forall_ne_some]
  grind

theorem ne_empty_of_mem_found (htold : ∀ entry, told entry ≠ some "") {name : String}
    (h : name ∈ outline.found modem told) : name ≠ "" := by
  have hbind (imsi? : Option String) :
      (imsi?.bind fun imsi => told (.nameOf imsi)) ≠ some "" := by
    intro hempty
    obtain ⟨imsi, -, hname⟩ := Option.bind_eq_some_iff.1 hempty
    exact htold _ hname
  rintro rfl
  rcases mem_found_iff.1 h with hrecalled | hoperator | hreported
  · unfold recalledName? at hrecalled
    split at hrecalled
    · cases hrecalled
    · exact hbind _ hrecalled
  · exact modem.homeOperator?_ne_empty hoperator
  · unfold reportedName? at hreported
    split at hreported
    · cases hreported
    · exact hbind _ hreported

/-- Nothing but the loss of the card makes its name another one, before that is read. -/
theorem cardName_of_mem_withIccid
    (hkept : outline.iccid ≠ none → known modem.iccid = none → outline.cardName = none)
    (h : moment ∈ outline.withIccid modem told) : moment.cardName = outline.cardName := by
  rcases cases_of_mem_withIccid h with ⟨hiccid, hgone, rfl⟩ | ⟨-, -, rfl | rfl⟩
  · exact (hkept hiccid hgone).symm
  · rfl
  · rfl

theorem cardName_afterNetwork
    (hkept : outline.iccid ≠ none → known modem.iccid = none → outline.cardName = none) :
    (outline.afterNetwork modem told).cardName = outline.cardName := by
  show (outline.afterIccid modem told).cardName = _
  rcases afterIccid_cases modem told outline with ⟨-, hafter⟩ | ⟨-, hmem⟩
  · rw [hafter]
  · exact cardName_of_mem_withIccid hkept hmem

theorem cardName_afterImsi
    (hkept : outline.iccid ≠ none → known modem.iccid = none → outline.cardName = none) :
    (outline.afterImsi modem told).cardName = outline.cardName :=
  (cardName_observeImsi _).trans (cardName_afterNetwork hkept)

/-- The name of the card, once it is read, is shown to the end. -/
theorem part_afterCardName :
    outline.afterCardName modem told = outline.afterImsi modem told ∨
      (outline.afterCardName modem told).part .spn = (outline.afterAll modem told).part .spn := by
  cases hname : known modem.spn with
  | none =>
    refine .inl ?_
    rw [afterCardName, observeCardName, hname]
  | some name =>
    have hne := (known_eq_some_iff.1 hname).2
    have hcard : (outline.afterCardName modem told).cardName = some name := by
      rw [afterCardName, observeCardName, hname]
    have hcard' : (outline.afterAll modem told).cardName = some name := hcard
    rw [part_of_cardName hcard hne, part_of_cardName hcard' hne]
    exact .inr rfl

section Found

variable (hcard : outline.cardName = none)
include hcard

/-- A name that the cache tells for another card is there once the serial number is read. -/
theorem cachedName_afterIccid_of_recalled {name : String}
    (hname : outline.recalledName? modem told = some name) :
    outline.afterIccid modem told ∈ outline.withIccid modem told ∧
      (outline.afterIccid modem told).cachedName = some name := by
  rcases withIccid_cases modem told outline with
    ⟨hsame, -⟩ | ⟨hiccid, hgone, -⟩ | ⟨-, hnew, hwith⟩
  · simp [recalledName?, hsame] at hname
  · simp [recalledName?, imsiOfCard, hgone, hiccid] at hname
  · have hafter : outline.afterIccid modem told = (outline.putIn modem told).recallName told := by
      simp [afterIccid, hwith]
    refine ⟨by simp [hafter, hwith], ?_⟩
    rw [recalledName?, if_neg hnew] at hname
    rw [hafter]
    refine (cachedName_adopt hcard _).trans ?_
    rw [show (outline.putIn modem told).imsi = outline.imsiOfCard modem told from rfl, hname]
    rfl

theorem cachedName_afterNetwork :
    (outline.afterNetwork modem told).cachedName =
      (modem.homeOperator? <|> (outline.afterIccid modem told).cachedName) :=
  cachedName_adopt (show (outline.afterIccid modem told).cardName = none from
    (cardName_afterNetwork fun _ _ => hcard).trans hcard) _

theorem cachedName_afterImsi :
    (outline.afterImsi modem told).cachedName =
      (outline.reportedName? modem told <|> (outline.afterNetwork modem told).cachedName) := by
  refine (cachedName_observeImsi ((cardName_afterNetwork fun _ _ => hcard).trans hcard)).trans ?_
  rw [imsi_afterNetwork]
  rfl

/-- Each name that is found is there at one moment. -/
theorem exists_cachedName_of_found {name : String} (h : name ∈ outline.found modem told) :
    ∃ moment ∈ outline.withAll modem told, moment.cardName = none ∧
      moment.cachedName = some name := by
  rcases mem_found_iff.1 h with hrecalled | hoperator | hreported
  · obtain ⟨hmem, hname⟩ := cachedName_afterIccid_of_recalled hcard hrecalled
    have hunnamed := (cardName_of_mem_withIccid (fun _ _ => hcard) hmem).trans hcard
    exact ⟨_, List.mem_append_left _ hmem, hunnamed, hname⟩
  · have hunnamed : (outline.afterNetwork modem told).cardName = none :=
      (cardName_afterNetwork fun _ _ => hcard).trans hcard
    refine ⟨outline.afterNetwork modem told, by simp [withAll], hunnamed, ?_⟩
    rw [cachedName_afterNetwork hcard, hoperator]
    rfl
  · have hunnamed : (outline.afterImsi modem told).cardName = none :=
      (cardName_afterImsi fun _ _ => hcard).trans hcard
    refine ⟨outline.afterImsi modem told, by simp [withAll], hunnamed, ?_⟩
    rw [cachedName_afterImsi hcard, hreported]
    rfl

/-- If there is no name in the end, then none was found. -/
theorem found_eq_nil_of_cachedName (h : (outline.afterImsi modem told).cachedName = none) :
    outline.found modem told = [] := by
  simp only [cachedName_afterImsi hcard, cachedName_afterNetwork hcard, Option.orElse_eq_orElse,
    Option.orElse_eq_or, Option.or_eq_none_iff] at h
  obtain ⟨hreported, hoperator, hrecalled⟩ := h
  refine found_eq_nil_iff.2 ⟨?_, hoperator, hreported⟩
  refine Option.eq_none_iff_forall_ne_some.2 fun name hname => ?_
  rw [(cachedName_afterIccid_of_recalled hcard hname).2] at hrecalled
  cases hrecalled

end Found

/-- What is known on the way of a card that tells no name. -/
structure Along (modem : Modem) (told : Cache.Entry → Option String) (outline moment : Outline) :
    Prop where
  /-- The card still tells none. -/
  cardName_eq : moment.cardName = none
  /-- The name for the cache is the one that was there at first or one that was found. -/
  cachedName_cases : moment.cachedName = outline.cachedName ∨
    ∃ name ∈ outline.found modem told, moment.cachedName = some name
  /-- The fallback name comes with another subscription, or when no name was found. -/
  fallback_cases : moment.fallback = outline.fallback ∨ moment.fallback = modem.fallbackName ∧
    (moment.cachedName = none → outline.found modem told = [] ∨
      known modem.iccid ≠ none ∧ outline.imsiOfCard modem told ≠ outline.imsi)

namespace Along

theorem refl (hcard : outline.cardName = none) : Along modem told outline outline where
  cardName_eq := hcard
  cachedName_cases := .inl rfl
  fallback_cases := .inl rfl

theorem putIn (hcard : outline.cardName = none) (hthere : known modem.iccid ≠ none) :
    Along modem told outline (outline.putIn modem told) where
  cardName_eq := hcard
  cachedName_cases := .inl rfl
  fallback_cases := by
    by_cases hsame : outline.imsiOfCard modem told = outline.imsi
    · exact .inl (if_pos hsame)
    · exact .inr ⟨if_neg hsame, fun _ => .inr ⟨hthere, hsame⟩⟩

/-- To take over a name that was found. -/
theorem adopt (h : Along modem told outline moment) {name? : Option String}
    (hfound : ∀ name, name? = some name → name ∈ outline.found modem told) :
    Along modem told outline (moment.adopt name?) where
  cardName_eq := h.cardName_eq
  cachedName_cases := by
    rw [cachedName_adopt h.cardName_eq]
    cases hname : name? with
    | none => exact h.cachedName_cases
    | some name => exact .inr ⟨name, hfound name hname, rfl⟩
  fallback_cases := by
    refine h.fallback_cases.imp_right fun ⟨hfallback, hunnamed⟩ => ⟨hfallback, fun hnone => ?_⟩
    rw [cachedName_adopt h.cardName_eq] at hnone
    cases name? with
    | none => exact hunnamed hnone
    | some name => cases hnone

/-- What is another name then comes by a detour. -/
theorem detour (h : Along modem told outline moment) (hcard : outline.cardName = none)
    (hname : outline.cachedName ≠ some "") (htold : ∀ entry, told entry ≠ some "")
    (hne : moment.part .spn ≠ outline.part .spn) : outline.SpnDetour modem told := by
  rcases h.cachedName_cases with hsame | ⟨name, hmem, hcached⟩
  · have hsameCard : moment.cardName = outline.cardName := h.cardName_eq.trans hcard.symm
    rw [part_ne_iff_of_same_names (by simp [hcard]) hname hsameCard hsame] at hne
    obtain ⟨-, hunnamed, hfallback⟩ := hne
    obtain ⟨hnew, hcome⟩ := h.fallback_cases.resolve_left (Ne.symm hfallback)
    have hnewFallback : outline.NewFallback modem := ⟨hcard, hunnamed, hnew ▸ hfallback⟩
    rcases hcome (hsame.trans hunnamed) with hnone | ⟨hthere, hother⟩
    · exact .unnamed hnewFallback hnone
    · exact .fallback hnewFallback hthere hother
  · refine .found hcard hmem fun hshown => hne ?_
    rw [part_of_cachedName h.cardName_eq hcached (ne_empty_of_mem_found htold hmem), hshown]

end Along

section Kept

variable (hcard : outline.cardName = none) (hname : outline.cachedName ≠ some "")
  (hkept : outline.iccid ≠ none → known modem.iccid = none → outline.part .spn = none)
include hcard hname hkept

theorem along_of_mem_withIccid
    (h : moment ∈ outline.withIccid modem told) : Along modem told outline moment := by
  rcases cases_of_mem_withIccid h with ⟨hiccid, hgone, rfl⟩ | ⟨hthere, hnew, rfl | rfl⟩
  · have hunnamed : outline.cachedName = none := by
      refine Option.eq_none_iff_forall_ne_some.2 fun name hsome => ?_
      have hshown := part_of_cachedName hcard hsome fun hempty => hname (hempty ▸ hsome)
      rw [hkept hiccid hgone] at hshown
      cases hshown
    have hempty : ∅ = outline.fallback := by
      refine fallback_eq_of_known_eq ?_
      rw [← part_of_unnamed hcard hunnamed, hkept hiccid hgone]
      rfl
    exact ⟨rfl, .inl hunnamed.symm, .inl hempty⟩
  · exact .putIn hcard hthere
  · refine Along.adopt (.putIn hcard hthere) fun name htold => mem_found_iff.2 (.inl ?_)
    rw [recalledName?, if_neg hnew]
    exact htold

theorem along_afterNetwork :
    Along modem told outline (outline.afterNetwork modem told) := by
  have hafter : Along modem told outline (outline.afterIccid modem told) := by
    rcases afterIccid_cases modem told outline with ⟨-, hafter⟩ | ⟨-, hmem⟩
    · rw [hafter]
      exact .refl hcard
    · exact along_of_mem_withIccid hcard hname hkept hmem
  exact hafter.adopt fun name hoperator => mem_found_iff.2 (.inr (.inl hoperator))

theorem along_afterImsi :
    Along modem told outline (outline.afterImsi modem told) where
  cardName_eq := (cardName_afterImsi fun _ _ => hcard).trans hcard
  cachedName_cases := by
    rw [cachedName_afterImsi hcard]
    cases hreported : outline.reportedName? modem told with
    | none => exact (along_afterNetwork hcard hname hkept).cachedName_cases
    | some name => exact .inr ⟨name, mem_found_iff.2 (.inr (.inr hreported)), rfl⟩
  fallback_cases :=
    .inr ⟨fallback_observeImsi _, fun hnone => .inl (found_eq_nil_of_cachedName hcard hnone)⟩

end Kept

section Texts

variable (hcard : outline.cardName ≠ some "") (hname : outline.cachedName ≠ some "")
  (htold : ∀ entry, told entry ≠ some "")
include hcard hname htold

/-- Until the name of the card is read, another one is shown by a detour only. -/
theorem spnDetour_of_mem
    (hkept : outline.iccid ≠ none → known modem.iccid = none → outline.part .spn = none)
    (hmem : moment ∈ outline.withIccid modem told ∨ moment = outline.afterNetwork modem told ∨
      moment = outline.afterImsi modem told)
    (hne : moment.part .spn ≠ outline.part .spn) : outline.SpnDetour modem told := by
  cases hcardName : outline.cardName with
  | none =>
    have halong : Along modem told outline moment := by
      rcases hmem with hmem | rfl | rfl
      · exact along_of_mem_withIccid hcardName hname hkept hmem
      · exact along_afterNetwork hcardName hname hkept
      · exact along_afterImsi hcardName hname hkept
    exact halong.detour hcardName hname htold hne
  | some name =>
    have hnonempty : name ≠ "" := fun h => hcard (h ▸ hcardName)
    have hshown := part_of_cardName hcardName hnonempty
    have hthere (hiccid : outline.iccid ≠ none) (hgone : known modem.iccid = none) :
        outline.cardName = none := by
      rw [hkept hiccid hgone] at hshown
      cases hshown
    have hsame : moment.cardName = outline.cardName := by
      rcases hmem with hmem | rfl | rfl
      · exact cardName_of_mem_withIccid hthere hmem
      · exact cardName_afterNetwork hthere
      · exact cardName_afterImsi hthere
    rw [part_of_cardName (hsame.trans hcardName) hnonempty] at hne
    exact absurd hshown.symm hne

/-- A name that takes a detour is another one at some moment. -/
theorem exists_spn_ne_of_spnDetour
    (hkept : outline.iccid ≠ none → known modem.iccid = none → outline.part .spn = none)
    (hdetour : outline.SpnDetour modem told) :
    ∃ moment ∈ outline.withAll modem told, moment.part .spn ≠ outline.part .spn := by
  cases hdetour with
  | lost hiccid hgone hshown => exact absurd (hkept hiccid hgone) hshown
  | @found name hunnamed hfound hother =>
    obtain ⟨moment, hmem, hcardName, hcached⟩ := exists_cachedName_of_found hunnamed hfound
    refine ⟨moment, hmem, ?_⟩
    rw [part_of_cachedName hcardName hcached (ne_empty_of_mem_found htold hfound)]
    exact Ne.symm hother
  | fallback hnew hthere hother =>
    obtain ⟨moment, hmem, hne⟩ :=
      (exists_spn_ne_of_there hcard hname hthere).2 (.inr ⟨hother, hnew⟩)
    exact ⟨moment, List.mem_append_left _ hmem, hne⟩
  | unnamed hnew hnone =>
    have halong : Along modem told outline (outline.afterImsi modem told) :=
      along_afterImsi hnew.cardName_eq hname hkept
    have hsameCard := halong.cardName_eq.trans hnew.cardName_eq.symm
    have hsame : (outline.afterImsi modem told).cachedName = outline.cachedName := by
      refine halong.cachedName_cases.resolve_right ?_
      rintro ⟨name, hmem, -⟩
      rw [hnone] at hmem
      cases hmem
    have hfallback : (outline.afterImsi modem told).fallback = modem.fallbackName :=
      fallback_observeImsi _
    refine ⟨outline.afterImsi modem told, by simp [withAll], ?_⟩
    rw [part_ne_iff_of_same_names hcard hname hsameCard hsame, hfallback]
    exact ⟨hnew.cardName_eq, hnew.cachedName_eq, hnew.fallback_ne⟩

/-- While everything is read, another name is shown only in the end or by a detour. -/
theorem exists_spn_ne_iff :
    (∃ moment ∈ outline.withAll modem told, moment.part .spn ≠ outline.part .spn) ↔
      (outline.afterAll modem told).part .spn ≠ outline.part .spn ∨
        outline.SpnDetour modem told := by
  by_cases hlost : outline.iccid ≠ none ∧ known modem.iccid = none ∧ outline.part .spn ≠ none
  · obtain ⟨hiccid, hgone, hshown⟩ := hlost
    refine iff_of_true ⟨{}, ?_, Ne.symm hshown⟩ (.inr (.lost hiccid hgone hshown))
    simp [withAll, withIccid, hgone, hiccid]
  -- the name is not lost now, and each moment is to be looked at
  have hkept (hiccid : outline.iccid ≠ none) (hgone : known modem.iccid = none) :
      outline.part .spn = none :=
    Decidable.not_not.1 fun hshown => hlost ⟨hiccid, hgone, hshown⟩
  constructor
  · rintro ⟨moment, hmem, hne⟩
    by_cases hlast : (outline.afterAll modem told).part .spn = outline.part .spn
    · refine .inr (spnDetour_of_mem hcard hname htold hkept ?_ hne)
      simp only [withAll, List.mem_append, List.mem_cons, List.not_mem_nil, or_false] at hmem
      rcases hmem with hmem | rfl | rfl | rfl | rfl
      · exact .inl hmem
      · exact .inr (.inl rfl)
      · exact .inr (.inr rfl)
      · have hsame := part_afterCardName.resolve_right fun hsame => hne (hsame.trans hlast)
        exact .inr (.inr hsame)
      · exact absurd hlast hne
    · exact .inl hlast
  · rintro (hlast | hdetour)
    · exact ⟨_, by simp [withAll], hlast⟩
    · exact exists_spn_ne_of_spnDetour hcard hname htold hkept hdetour

end Texts

end Outline

theorem Cache.told_ne_empty {σ : Type} [StringStore σ] (cfg : Config) (store : σ)
    (entry : Cache.Entry) : Cache.told cfg store entry ≠ some "" := by
  unfold told
  split
  · exact known_ne_empty _
  · simp
  · simp

namespace Run

variable {cfg : Config} {run : Run VolatileStore} {modem : Modem}

/-- What is announced of the name when the serial number is reported. -/
theorem exists_news_observe_iccid (h : run.Coherent) (hdue : run.due = ∅)
    (hthere : known modem.iccid ≠ none) :
    let told := Cache.told cfg run.store
    let later := run.observe cfg modem .iccid
    ∃ news, later.announce.sent = run.sent ++ news ∧
      ((∃ notification ∈ news, notification.signal = .spn) ↔
        later.identity.spn ≠ run.identity.spn ∨
          run.outline.imsiOfCard modem told ≠ run.identity.imsi ∧
            run.outline.NewFallback modem) := by
  intro told later
  have hnoted : (run.note (.iccidReported modem.iccid)).Coherent := h
  have hpasses : Passes (run.note (.iccidReported modem.iccid)) later
      (run.outline.withIccid modem told) := passes_observeIccid hnoted modem
  have hprogress : Progress cfg none (run.note (.iccidReported modem.iccid)) later :=
    progress_observeIccid modem _
  obtain ⟨news, hsent, hnews⟩ := hpasses.exists_news hdue hprogress.sent_eq
  have hspn : run.identity.spn = run.outline.part .spn := h.part_eq .spn
  have hcoherent : later.Coherent := hnoted.observeIccid cfg modem
  have hlater : later.identity.spn = (run.outline.afterIccid modem told).part .spn :=
    (hcoherent.part_eq .spn).trans (congrArg (·.part .spn) hpasses.outline_eq)
  refine ⟨news, hsent, (hnews .spn).trans ?_⟩
  rw [hspn, hlater]
  exact Outline.exists_spn_ne_of_there h.cardName_ne h.cachedName_ne hthere

/-- What is announced of the subscription and of the name once everything is read. -/
theorem exists_news_observeAll (h : run.Coherent) (hdue : run.due = ∅) :
    let told := Cache.told cfg run.store
    let later := run.observeAll cfg modem
    ∃ news, later.announce.sent = run.sent ++ news ∧
      ((∃ notification ∈ news, notification.signal = .imsi) ↔
        later.identity.imsi ≠ run.identity.imsi ∨
          run.outline.imsiOfCard modem told ≠ run.identity.imsi) ∧
      ((∃ notification ∈ news, notification.signal = .spn) ↔
        later.identity.spn ≠ run.identity.spn ∨ run.outline.SpnDetour modem told) := by
  intro told later
  have hpasses : Passes run later (run.outline.withAll modem told) := passes_observeAll h modem
  have hprogress : Progress cfg none run later := progress_observeAll modem run
  obtain ⟨news, hsent, hnews⟩ := hpasses.exists_news hdue hprogress.sent_eq
  have hlater (signal : Signal) :
      later.identity.part signal = (run.outline.afterAll modem told).part signal := by
    rw [(h.observeAll cfg modem).part_eq, hpasses.outline_eq]
    simp [Outline.withAll]
  refine ⟨news, hsent, ?_, ?_⟩
  · have himsi : later.identity.imsi = (run.outline.afterAll modem told).imsi := hlater .imsi
    rw [hnews .imsi, himsi]
    exact Outline.exists_imsi_ne_iff
  · have hspn : run.identity.spn = run.outline.part .spn := h.part_eq .spn
    have hend : later.identity.spn = (run.outline.afterAll modem told).part .spn := hlater .spn
    rw [hnews .spn, hspn, hend]
    exact Outline.exists_spn_ne_iff h.cardName_ne h.cachedName_ne
      (Cache.told_ne_empty cfg run.store)

end Run

variable {σ : Type} [StringStore σ] {cfg : Config} {run : Run σ}

/-- **A signal tells of another part or of a detour.** Over any memory, and whatever the stores of
the tracker did before: when a card is reported, the name is announced if and only if it is another
one afterwards, or it was the fallback name and another one came with the subscription that the
cache tells for the card. When everything is read, the subscription is announced if and only if it
is another one afterwards, or another one goes with the serial number, and the name if and only if
it is another one afterwards or has taken a detour. What the cache tells is what it does once it was
tried again to write what is to be written. -/
theorem signals_tell_of_detours (h : Reachable cfg run) (memory : VolatileStore) (modem : Modem) :
    let begun := run.withStore memory
    let told := Cache.told cfg (begun.retryWrites cfg).store
    let put := begun.perform cfg modem (.report .iccid)
    let read := begun.perform cfg modem .resync
    (known modem.iccid ≠ none →
      ∃ news, put.sent = run.sent ++ news ∧
        ((∃ notification ∈ news, notification.signal = .spn) ↔
          put.identity.spn ≠ run.identity.spn ∨
            run.outline.imsiOfCard modem told ≠ run.identity.imsi ∧
              run.outline.NewFallback modem)) ∧
      ∃ news, read.sent = run.sent ++ news ∧
        ((∃ notification ∈ news, notification.signal = .imsi) ↔
          read.identity.imsi ≠ run.identity.imsi ∨
            run.outline.imsiOfCard modem told ≠ run.identity.imsi) ∧
        ((∃ notification ∈ news, notification.signal = .spn) ↔
          read.identity.spn ≠ run.identity.spn ∨ run.outline.SpnDetour modem told) := by
  intro begun told put read
  have hbegun : begun.Coherent := h.coherent
  have hretried := hbegun.retryWrites cfg
  obtain ⟨hidentity, hquiet⟩ := Run.quiet_retryWrites cfg begun
  have houtline : (begun.retryWrites cfg).outline = run.outline := Run.outline_retryWrites cfg begun
  have hdue : (begun.retryWrites cfg).due = ∅ := hquiet.trans h.due_eq_empty
  have hprogress : Progress cfg none begun (begun.retryWrites cfg) := Run.progress_retryWrites begun
  have hsent : (begun.retryWrites cfg).sent = run.sent := hprogress.sent_eq
  constructor
  · intro hthere
    have hnews := @Run.exists_news_observe_iccid cfg _ modem hretried hdue hthere
    rw [hidentity, houtline, hsent] at hnews
    exact hnews
  · have hnews := @Run.exists_news_observeAll cfg _ modem hretried hdue
    rw [hidentity, houtline, hsent] at hnews
    exact hnews

/-- The subscription could not be saved at first. Then a card is put in that the cache knows by
another one, and it has the codes of the old card for its name. -/
theorem detours_of_card_put_in :
    let modem : Modem :=
      { path := "/ril_0", iccid := some "8901", imsi := some "00101"
        card := some { state := .ready, mcc := some "001", mnc := some "01" } }
    let next : Modem :=
      { modem with
        iccid := some "8902", spn := some "00101"
        card := some { state := .ready, mcc := some "002", mnc := some "99" } }
    let memory : VolatileStore :=
      (∅ : VolatileStore).insert (Cache.Entry.address {} (.imsiOf "8902")) "00299"
    let run := Run.start {} modem ({ commitPlan := [false] } : UnreliableStore)
    let begun := run.withStore memory
    let put := begun.perform {} next (.report .iccid)
    let read := begun.perform {} next .resync
    known next.iccid ≠ none ∧ read.identity = { run.identity with iccid := some "8902" } ∧
      (∃ news, put.sent = run.sent ++ news ∧ ∃ notification ∈ news, notification.signal = .spn) ∧
      ∃ news, read.sent = run.sent ++ news ∧
        (∃ notification ∈ news, notification.signal = .imsi) ∧
          ∃ notification ∈ news, notification.signal = .spn := by
  intro modem next memory run begun put read
  have hreachable : Reachable {} run := .start _ _
  have hthere : known next.iccid ≠ none := by decide
  have hother : run.outline.imsiOfCard next (Cache.told {} (begun.retryWrites {}).store) ≠
      run.identity.imsi := by decide +kernel
  have hnew : run.outline.NewFallback next :=
    ⟨by decide +kernel, by decide +kernel, by decide +kernel⟩
  have hsame : read.identity = { run.identity with iccid := some "8902" } := by decide +kernel
  -- from here on it does not matter how the run came about
  clear_value run memory
  obtain ⟨hput, news, hread, himsi, hspn⟩ := signals_tell_of_detours hreachable memory next
  obtain ⟨putNews, hsent, hput⟩ := hput hthere
  refine ⟨hthere, hsame, ⟨putNews, hsent, hput.2 (.inr ⟨hother, hnew⟩)⟩, news, hread, ?_, ?_⟩
  · exact himsi.2 (.inr hother)
  · exact hspn.2 (.inr (.fallback hnew hthere hother))

/-- The cache knows another card by a subscription that has the home network of the first one for
its name, and the card reports the one that was there before. Nothing but the serial number changes,
and everything is announced. -/
theorem same_identity_announced :
    let modem : Modem :=
      { path := "/ril_0", iccid := some "8901", imsi := some "00101"
        card := some { state := .ready, mcc := some "001", mnc := some "01" } }
    let next : Modem :=
      { modem with
        iccid := some "8902"
        card := some { state := .ready, mcc := some "002", mnc := some "99" } }
    let store : VolatileStore :=
      (∅ : VolatileStore).insert (Cache.Entry.address {} (.imsiOf "8902")) "00299"
        |>.insert (Cache.Entry.address {} (.nameOf "00299")) "00101"
    let run := Run.start {} modem store
    let put := run.perform {} next (.report .iccid)
    let read := run.perform {} next .resync
    put.identity.spn = run.identity.spn ∧
      (put.sent.drop run.sent.length).map (·.signal) = [.iccid, .imsi, .spn] ∧
      read.identity.imsi = run.identity.imsi ∧ read.identity.spn = run.identity.spn ∧
        (read.sent.drop run.sent.length).map (·.signal) = [.iccid, .imsi, .spn] := by
  decide +kernel

end SimIdentity
