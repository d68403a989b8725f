import Mathlib.Data.List.Induction
import Mathlib.Data.List.Infix
import SimIdentity.Proofs.Authority
import SimIdentity.Proofs.Retry

/-!
# Which subscription is saved for which card

What the cache tells for a serial number should be what the card of that number carries. But the
mark that the subscription has to be saved says nothing of the card it was made for. It stays when
another card is put in, and the subscription stays as well, until one is found for the new card or
reported by it.

There are three places where a subscription is saved. Two of them save what has just been found or
reported (`Run.finds_or_spares_observeIccid`, `Run.spares_observeImsi`), and everything else that
happens in a call is about names (`AboutNames`). What is left is the third one, trying again after a
failed write.

## What is proved

`unvouched_pair_is_saved_iff`: a subscription that nothing ever told for a card is saved for it
exactly if it was waiting to be saved when the card was put in, has been waiting since, and a failed
write is tried again.
-/

namespace SimIdentity

/-- Whether the subscription that the modem reports is read in the call. -/
def Call.readsImsi : Call → Bool
  | .report .imsi => true
  | .report _ => false
  | .resync => true

variable {σ : Type}

/-- What happened between the two runs. -/
def Run.since (run later : Run σ) : List Event :=
  (later.trail.drop run.trail.length).map (·.event)

/-- To save the subscription for the card was no part of what happened between the two runs. -/
structure Run.Omits (iccid imsi : String) (run later : Run σ) : Prop where
  /-- The second run goes on where the first one ended. -/
  trail_grows : run.trail <+: later.trail
  /-- The subscription was not saved for the card, whatever could have come of it. -/
  not_mem (outcome : Cache.Saving) : .saved (.imsiOf iccid) imsi outcome ∉ run.since later

section Moments

variable {iccid imsi : String} {run later last : Run σ}

theorem Run.since_of_trail_eq {moments : List TrailEntry} (h : later.trail = run.trail ++ moments) :
    run.since later = moments.map (·.event) := by
  simp only [since]
  rw [h, List.drop_left]

theorem Run.since_eq_append (h : run.trail <+: later.trail) (h' : later.trail <+: last.trail) :
    run.since last = run.since later ++ later.since last := by
  obtain ⟨moments, hmoments⟩ := h
  obtain ⟨rest, hrest⟩ := h'
  rw [since_of_trail_eq hmoments.symm, since_of_trail_eq hrest.symm, ← List.map_append]
  rw [← hmoments, List.append_assoc] at hrest
  exact since_of_trail_eq hrest.symm

theorem Run.mem_since_of_mem {event : Event} (h : event ∈ later.since last)
    (hrun : run.trail <+: later.trail) (hlater : later.trail <+: last.trail) :
    event ∈ run.since last := by
  rw [since_eq_append hrun hlater]
  exact List.mem_append_right _ h

theorem Run.Omits.trans (h : run.Omits iccid imsi later) (h' : later.Omits iccid imsi last) :
    run.Omits iccid imsi last where
  trail_grows := h.trail_grows.trans h'.trail_grows
  not_mem outcome hmem := by
    rw [since_eq_append h.trail_grows h'.trail_grows] at hmem
    exact (List.mem_append.1 hmem).elim (h.not_mem outcome) (h'.not_mem outcome)

theorem Run.Omits.of_trail_eq (h : later.trail = run.trail) : run.Omits iccid imsi later where
  trail_grows := by rw [h]
  not_mem _ := by
    rw [since_of_trail_eq (h.trans (List.append_nil _).symm)]
    exact List.not_mem_nil

theorem Run.omits_of_trail_eq {moment : TrailEntry} (h : later.trail = run.trail ++ [moment])
    (hmoment : ∀ outcome, moment.event ≠ .saved (.imsiOf iccid) imsi outcome) :
    run.Omits iccid imsi later where
  trail_grows := ⟨[moment], h.symm⟩
  not_mem outcome hmem := by
    rw [since_of_trail_eq h] at hmem
    exact hmoment outcome (List.mem_singleton.1 hmem).symm

theorem Run.omits_remark {moment : TrailEntry} (h : later.trail = run.trail ++ [moment])
    (hmoment : moment.event.IsRemark) : run.Omits iccid imsi later := by
  refine omits_of_trail_eq h fun outcome hsaved => ?_
  rw [hsaved] at hmoment
  exact hmoment

end Moments

/-! ### Work on names -/

/-- The card is the same, and so is its subscription, dirty or not. -/
structure Knowledge.SamePair (before after : Knowledge) : Prop where
  /-- The serial number is the same. -/
  iccid_eq : after.identity.iccid = before.identity.iccid
  /-- The subscription is the same. -/
  imsi_eq : after.identity.imsi = before.identity.imsi
  /-- It is as dirty as it was. -/
  imsiDirty_eq : after.imsiDirty = before.imsiDirty

variable [StringStore σ] {cfg : Config}

/-- What was tried to be saved is one of the texts. -/
theorem Cache.mem_of_mem_saveAll {texts : List (Cache.Entry × String)} {store : σ}
    {attempt : Cache.Attempt} (h : attempt ∈ (Cache.saveAll cfg texts store).1) :
    (attempt.entry, attempt.text) ∈ texts := by
  induction texts generalizing store with
  | nil => exact absurd h List.not_mem_nil
  | cons head rest ih =>
    simp only [saveAll] at h
    rcases List.mem_cons.1 h with rfl | h
    · exact List.mem_cons_self
    · exact List.mem_cons_of_mem _ (ih h)

/-- Saving other texts is no part of it. -/
theorem Run.SavesAll.omits {texts : List (Cache.Entry × String)} {run later : Run σ}
    (h : run.SavesAll cfg texts later) {iccid imsi : String}
    (hnone : (.imsiOf iccid, imsi) ∉ texts) : run.Omits iccid imsi later := by
  obtain ⟨moments, htrail, hmoments, -⟩ := h.trail_eq
  refine ⟨⟨moments, htrail.symm⟩, fun outcome hmem => hnone ?_⟩
  rw [since_of_trail_eq htrail, hmoments] at hmem
  obtain ⟨attempt, hattempt, hsame⟩ := List.mem_map.1 hmem
  obtain ⟨entry, text, _⟩ := attempt
  cases hsame
  exact Cache.mem_of_mem_saveAll hattempt

/-- The runs that come about by work that is not about the card and its subscription. -/
inductive AboutNames (cfg : Config) (run : Run σ) : Run σ → Prop where
  /-- Nothing was done. -/
  | refl : AboutNames cfg run run
  /-- At last something was remarked. -/
  | note {later : Run σ} (event : Event) :
      event.IsRemark → AboutNames cfg run later → AboutNames cfg run (later.note event)
  /-- At last something else was learned. -/
  | learn {later : Run σ} (knowledge : Knowledge) :
      later.SamePair knowledge → AboutNames cfg run later →
        AboutNames cfg run { later with toKnowledge := knowledge }
  /-- At last an entry of the cache was looked up. -/
  | lookup {later : Run σ} (entry : Cache.Entry) :
      AboutNames cfg run later → AboutNames cfg run (later.lookup cfg entry).2
  /-- At last the name was to be saved. -/
  | persistName {later : Run σ} :
      AboutNames cfg run later → AboutNames cfg run (later.persistName cfg)

namespace AboutNames

variable {run later : Run σ}

theorem queue (h : AboutNames cfg run later) (signal : Signal) :
    AboutNames cfg run (later.queue signal) :=
  h.learn { later.toKnowledge with due := later.due.insert signal } ⟨rfl, rfl, rfl⟩

theorem refreshPublicName (h : AboutNames cfg run later) :
    AboutNames cfg run later.refreshPublicName := by
  simp only [Run.refreshPublicName]
  split
  · exact h
  · refine queue ?_ .spn
    exact (h.note (.publicNameChanged _) trivial).learn _ ⟨rfl, rfl, rfl⟩

theorem refreshFallback (h : AboutNames cfg run later) (modem : Modem) :
    AboutNames cfg run (later.refreshFallback modem) := by
  simp only [Run.refreshFallback]
  split
  · exact h
  · refine refreshPublicName ?_
    exact (h.note (.fallbackChanged _) trivial).learn _ ⟨rfl, rfl, rfl⟩

theorem adoptName (h : AboutNames cfg run later) (name : String) :
    AboutNames cfg run (later.adoptName cfg name) := by
  simp only [Run.adoptName]
  split
  · exact h
  · refine refreshPublicName (persistName ?_)
    exact (h.note (.nameAdopted name) trivial).learn _ ⟨rfl, rfl, rfl⟩

theorem adoptHomeOperator (h : AboutNames cfg run later) (modem : Modem) :
    AboutNames cfg run (later.adoptHomeOperator cfg modem) := by
  unfold Run.adoptHomeOperator
  split
  · exact h
  case h_2 name _ =>
    have hnote := h.note (.homeNetwork name) trivial
    dsimp only
    split
    · exact hnote.adoptName name
    · exact hnote

theorem recallName (h : AboutNames cfg run later) : AboutNames cfg run (later.recallName cfg) := by
  simp only [Run.recallName]
  split
  · exact h
  case h_2 imsi _ =>
    have hread := h.lookup (.nameOf imsi)
    split
    case h_1 name read hlookup =>
      rw [hlookup] at hread
      split
      · exact hread
      · split
        · refine persistName ?_
          exact (hread.note (.nameOverruled name imsi) trivial).learn _ ⟨rfl, rfl, rfl⟩
        · refine refreshPublicName (persistName ?_)
          refine learn _ ⟨rfl, rfl, rfl⟩ (note (.nameRecalled imsi name) trivial ?_)
          split
          · exact (hread.note (.nameReplaced _ name) trivial).learn _ ⟨rfl, rfl, rfl⟩
          · exact hread
    case h_2 hlookup =>
      rw [hlookup] at hread
      exact hread

theorem observeCardName (h : AboutNames cfg run later) (modem : Modem) :
    AboutNames cfg run (later.observeCardName cfg modem) := by
  simp only [Run.observeCardName, Run.adoptCardName]
  split
  · split
    · exact h
    · refine refreshPublicName (persistName (adoptName ?_ _))
      exact (h.note (.cardNameAdopted _) trivial).learn _ ⟨rfl, rfl, rfl⟩
  · exact h

theorem observeNetwork (h : AboutNames cfg run later) (modem : Modem) :
    AboutNames cfg run (later.observeNetwork cfg modem) := by
  simp only [Run.observeNetwork]
  split
  · refine adoptHomeOperator ?_ modem
    split
    · exact h
    · exact (h.note .attached trivial).learn _ ⟨rfl, rfl, rfl⟩
  · split
    · exact (h.note .detached trivial).learn _ ⟨rfl, rfl, rfl⟩
    · exact h

/-- Such work leaves the card and its subscription as they are. -/
theorem samePair (h : AboutNames cfg run later) : run.SamePair later.toKnowledge := by
  induction h with
  | refl => exact ⟨rfl, rfl, rfl⟩
  | note event _ _ ih => exact ih
  | learn knowledge hsame _ ih =>
    exact ⟨hsame.iccid_eq.trans ih.iccid_eq, hsame.imsi_eq.trans ih.imsi_eq,
      hsame.imsiDirty_eq.trans ih.imsiDirty_eq⟩
  | lookup entry _ ih => exact ih
  | @persistName later _ ih =>
    obtain ⟨_, _, _, _, hpersist⟩ := Run.persistName_touches cfg later
    rw [hpersist]
    exact ⟨ih.iccid_eq, ih.imsi_eq, ih.imsiDirty_eq⟩

/-- No subscription is saved by it. -/
theorem omits (h : AboutNames cfg run later) (iccid imsi : String) :
    run.Omits iccid imsi later := by
  induction h with
  | refl => exact .of_trail_eq rfl
  | note event hevent _ ih => exact ih.trans (Run.omits_remark rfl hevent)
  | learn knowledge _ _ ih => exact ih.trans (.of_trail_eq rfl)
  | @lookup later entry _ ih =>
    exact ih.trans (Run.omits_of_trail_eq rfl fun _ hsaved => by cases hsaved)
  | @persistName later _ ih =>
    rw [Run.persistName_eq_attempt]
    refine ih.trans ((Run.savesAll_attempt cfg .name later).omits fun hmem => ?_)
    have hkind := Knowledge.kind_of_owed? (Option.mem_toList.1 hmem)
    cases hkind

end AboutNames

/-! ### Taking over a subscription -/

/-- The subscription was not saved for the card, and if it has to be in the end, then it was tracked
and dirty before. -/
structure Run.Spares (iccid imsi : String) (run later : Run σ) : Prop where
  /-- It was not saved. -/
  omits : run.Omits iccid imsi later
  /-- If it has to be saved then it had to be saved before, for whatever card. -/
  carried : known later.identity.iccid = some iccid → known later.identity.imsi = some imsi →
    later.imsiDirty = true → known run.identity.imsi = some imsi ∧ run.imsiDirty = true

variable {iccid imsi : String} {run taken later last : Run σ}

omit [StringStore σ] in
theorem Run.Spares.trans (h : run.Spares iccid imsi later) (h' : later.Spares iccid imsi last)
    (hiccid : last.identity.iccid = later.identity.iccid) : run.Spares iccid imsi last where
  omits := h.omits.trans h'.omits
  carried hcard himsi hdirty := by
    obtain ⟨himsi', hdirty'⟩ := h'.carried hcard himsi hdirty
    exact h.carried (by rw [← hiccid]; exact hcard) himsi' hdirty'

theorem AboutNames.spares (h : AboutNames cfg run later) (iccid imsi : String) :
    run.Spares iccid imsi later where
  omits := h.omits iccid imsi
  carried _ himsi hdirty := by
    rw [h.samePair.imsi_eq] at himsi
    rw [h.samePair.imsiDirty_eq] at hdirty
    exact ⟨himsi, hdirty⟩

theorem AboutNames.trans_spares (h : AboutNames cfg run later)
    (h' : later.Spares iccid imsi last) : run.Spares iccid imsi last where
  omits := (h.omits iccid imsi).trans h'.omits
  carried hiccid himsi hdirty := by
    have hcarried := h'.carried hiccid himsi hdirty
    rwa [h.samePair.imsi_eq, h.samePair.imsiDirty_eq] at hcarried

namespace Run

/-- If another subscription is taken over, or one for another card, then it is that one which is
saved. -/
theorem spares_of_taken (htaken : run.Omits iccid imsi taken)
    (hother : ¬ (known taken.identity.iccid = some iccid ∧ known taken.identity.imsi = some imsi))
    (hnames : AboutNames cfg (taken.persistImsi cfg) later) : run.Spares iccid imsi later := by
  have hpersist : taken.Omits iccid imsi (taken.persistImsi cfg) := by
    rw [persistImsi_eq_attempt]
    refine (savesAll_attempt cfg .imsi taken).omits fun hmem => hother ?_
    exact (Knowledge.owed?_imsi_iff.1 (Option.mem_toList.1 hmem)).2
  obtain ⟨_, _, _, _, htouches⟩ := persistImsi_touches cfg taken
  have hsame := hnames.samePair
  rw [htouches] at hsame
  refine ⟨(htaken.trans hpersist).trans (hnames.omits iccid imsi), fun hiccid himsi _ => ?_⟩
  rw [hsame.iccid_eq] at hiccid
  rw [hsame.imsi_eq] at himsi
  exact absurd ⟨hiccid, himsi⟩ hother

/-- A subscription that is reported is saved for the card that is tracked. -/
theorem spares_observeImsi {modem : Modem}
    (hother : ¬ (known run.identity.iccid = some iccid ∧ known modem.imsi = some imsi)) :
    run.Spares iccid imsi (run.observeImsi cfg modem) := by
  have hsame : AboutNames cfg run (run.refreshFallback modem) :=
    AboutNames.refl.refreshFallback modem
  simp only [observeImsi]
  split
  case h_1 reported hreported =>
    simp only [adoptImsi]
    split
    · exact hsame.spares iccid imsi
    · have htaken : run.Omits iccid imsi ({ run.note (.imsiAdopted reported) with
          identity.imsi := some reported, imsiDirty := true } : Run σ) :=
        omits_remark rfl trivial
      refine spares_of_taken htaken ?_
        (((AboutNames.refl.recallName.persistName).queue .imsi).refreshFallback modem)
      rintro ⟨hiccid, himsi⟩
      exact hother ⟨hiccid, hreported.trans (known_eq_some_iff.1 himsi).1⟩
  case h_2 => exact hsame.spares iccid imsi

theorem omits_forgetCard (cfg : Config) (iccid imsi : String) (run : Run σ) :
    run.Omits iccid imsi run.forgetCard := by
  have hnames (run : Run σ) : run.Omits iccid imsi run.refreshPublicName :=
    (@AboutNames.refl _ _ cfg run).refreshPublicName.omits iccid imsi
  simp only [forgetCard]
  refine Omits.trans ?_ (hnames _)
  split
  · exact omits_remark rfl trivial
  · exact omits_remark rfl trivial

/-- A subscription that is taken over after it was found for a card was found for it. -/
theorem finds_or_spares_of_found {read : Run σ} {new told : String} {moment : TrailEntry}
    (htrail : read.trail = run.trail ++ [moment])
    (hmoment : moment.event = .lookedUp (.imsiOf new) (.found told))
    (htaken : read.Omits iccid imsi taken) (hiccid : known taken.identity.iccid = some new)
    (himsi : taken.identity.imsi = some told)
    (hnames : AboutNames cfg (taken.persistImsi cfg) later) :
    .lookedUp (.imsiOf iccid) (.found imsi) ∈ run.since later ∨ run.Spares iccid imsi later := by
  by_cases hpair : new = iccid ∧ told = imsi
  · obtain ⟨rfl, rfl⟩ := hpair
    have hpersist : taken.trail <+: (taken.persistImsi cfg).trail :=
      Works.refl.persistImsi.trail_grows
    obtain ⟨moments, hmoments⟩ :=
      (htaken.trail_grows.trans hpersist).trans (hnames.omits new told).trail_grows
    rw [htrail, List.append_assoc] at hmoments
    rw [since_of_trail_eq hmoments.symm, ← hmoment]
    exact .inl List.mem_cons_self
  · have hread : run.Omits iccid imsi read :=
      omits_of_trail_eq htrail fun outcome hsaved => by cases hmoment.symm.trans hsaved
    refine .inr (spares_of_taken (hread.trans htaken) (fun h => hpair ?_) hnames)
    rw [hiccid, himsi] at h
    exact ⟨Option.some.inj h.1, Option.some.inj (known_eq_some_iff.1 h.2).1⟩

/-- A subscription that is recalled was found for the card. -/
theorem finds_or_spares_recallCard (cfg : Config) (modem : Modem) (iccid imsi : String)
    {new : String} (hnew : known run.identity.iccid = some new) :
    .lookedUp (.imsiOf iccid) (.found imsi) ∈ run.since (run.recallCard cfg modem new) ∨
      run.Spares iccid imsi (run.recallCard cfg modem new) := by
  cases hcache : Cache.lookup cfg (.imsiOf new) run.store with | mk outcome store =>
  have hlookup : run.lookup cfg (.imsiOf new) =
      (outcome, { run with store }.note (.lookedUp (.imsiOf new) outcome)) := by
    simp only [lookup, hcache]
  have hread : AboutNames cfg run ({ run with store }.note (.lookedUp (.imsiOf new) outcome)) := by
    have h := (AboutNames.refl : AboutNames cfg run run).lookup (.imsiOf new)
    rwa [hlookup] at h
  simp only [recallCard, recallImsi]
  rw [hlookup]
  cases outcome with
  | missing => exact .inr (hread.recallName.spares iccid imsi)
  | unreadable => exact .inr (hread.recallName.spares iccid imsi)
  | found told =>
    generalize hgeneral : { run with store }.note (.lookedUp (.imsiOf new) (.found told)) = read
      at hread
    have htrail : read.trail =
        run.trail ++ [⟨run.toKnowledge, .lookedUp (.imsiOf new) (.found told)⟩] := by
      rw [← hgeneral]
      rfl
    have hiccid : known read.identity.iccid = some new := by
      rw [hread.samePair.iccid_eq]
      exact hnew
    dsimp only
    split
    · exact .inr (hread.recallName.spares iccid imsi)
    · have hrecalled (run : Run σ) : run.Omits iccid imsi
          ({ run.note (.imsiRecalled new told) with identity.imsi := some told } : Run σ) :=
        omits_remark rfl trivial
      have hnames (run : Run σ) :
          AboutNames cfg run (((run.refreshFallback modem).queue .imsi).recallName cfg) :=
        ((AboutNames.refl.refreshFallback modem).queue .imsi).recallName
      split
      case h_1 old _ =>
        have hreplaced : read.Omits iccid imsi
            ({ read.note (.imsiReplaced old told) with imsiDirty := true } : Run σ) :=
          omits_remark rfl trivial
        exact finds_or_spares_of_found htrail rfl (hreplaced.trans (hrecalled _)) hiccid rfl
          (hnames _)
      case h_2 => exact finds_or_spares_of_found htrail rfl (hrecalled read) hiccid rfl (hnames _)

/-- So is one that is taken over when a new serial number is observed. -/
theorem finds_or_spares_observeIccid (cfg : Config) (modem : Modem) (iccid imsi : String)
    (run : Run σ) :
    .lookedUp (.imsiOf iccid) (.found imsi) ∈ run.since (run.observeIccid cfg modem) ∨
      run.Spares iccid imsi (run.observeIccid cfg modem) := by
  simp only [observeIccid]
  split
  · exact .inr ((@AboutNames.refl _ _ cfg run).spares iccid imsi)
  · generalize hbegun : ({ run with identity.iccid := known modem.iccid } : Run σ).queue .iccid =
      begun
    have htrail : begun.trail = run.trail := by rw [← hbegun]; rfl
    split
    case h_1 new hnew =>
      have hknown : known begun.identity.iccid = some new := by
        rw [← hbegun]
        exact (congrArg known hnew).trans (known_some (known_eq_some_iff.1 hnew).2)
      rcases finds_or_spares_recallCard cfg modem iccid imsi hknown with hfinds | hspares
      · simp only [since, htrail] at hfinds
        exact .inl hfinds
      · refine .inr ⟨(Omits.of_trail_eq htrail).trans hspares.omits, fun hiccid himsi hdirty => ?_⟩
        rw [← hbegun] at hspares hiccid himsi hdirty
        exact hspares.carried hiccid himsi hdirty
    case h_2 hgone =>
      refine .inr ⟨(Omits.of_trail_eq htrail).trans (omits_forgetCard cfg iccid imsi begun), ?_⟩
      intro hiccid
      obtain ⟨_, _, hforget⟩ := forgetCard_touches begun
      rw [hforget, ← hbegun] at hiccid
      have hnone : known (known modem.iccid) = none := by rw [hgone, known_none]
      exact absurd (hnone.symm.trans hiccid) (Option.some_ne_none iccid).symm

/-- If the subscription was not found for the card, then a new serial number does not bring them
together. -/
theorem spares_observeIccid {modem : Modem}
    (hlater : (run.observeIccid cfg modem).trail <+: later.trail)
    (hfinds : .lookedUp (.imsiOf iccid) (.found imsi) ∉ run.since later) :
    run.Spares iccid imsi (run.observeIccid cfg modem) := by
  refine (finds_or_spares_observeIccid cfg modem iccid imsi run).resolve_left fun h => hfinds ?_
  have hobserve : run.trail <+: (run.observeIccid cfg modem).trail :=
    (Works.refl.observeIccid modem).trail_grows
  rw [since_eq_append hobserve hlater]
  exact List.mem_append_left _ h

theorem spares_observeAll {modem : Modem}
    (hfinds : .lookedUp (.imsiOf iccid) (.found imsi) ∉ run.since (run.observeAll cfg modem))
    (hreads : ¬ (known (run.observeAll cfg modem).identity.iccid = some iccid ∧
      known modem.imsi = some imsi)) :
    run.Spares iccid imsi (run.observeAll cfg modem) := by
  simp only [observeAll] at hfinds hreads ⊢
  generalize hiccid : run.observeIccid cfg modem = first at hfinds hreads ⊢
  have hnetwork : AboutNames cfg first (first.observeNetwork cfg modem) :=
    AboutNames.refl.observeNetwork modem
  generalize first.observeNetwork cfg modem = second at hnetwork hfinds hreads ⊢
  have hnames : AboutNames cfg (second.observeImsi cfg modem)
      (((second.observeImsi cfg modem).observeCardName cfg modem).adoptHomeOperator cfg modem) :=
    (AboutNames.refl.observeCardName modem).adoptHomeOperator modem
  generalize ((second.observeImsi cfg modem).observeCardName cfg modem).adoptHomeOperator cfg modem =
    last at hnames hfinds hreads ⊢
  obtain ⟨_, himsi⟩ := observeImsi_touches cfg modem second
  have hcard : last.identity.iccid = second.identity.iccid :=
    hnames.samePair.iccid_eq.trans himsi.iccid_eq
  rw [hcard] at hreads
  have hgrows : first.trail <+: last.trail :=
    ((hnetwork.omits iccid imsi).trail_grows.trans
      (Works.refl.observeImsi modem).trail_grows).trans (hnames.omits iccid imsi).trail_grows
  have hfirst : run.Spares iccid imsi first := by
    rw [← hiccid] at hgrows ⊢
    exact spares_observeIccid hgrows hfinds
  have hsecond := hfirst.trans (hnetwork.spares iccid imsi) hnetwork.samePair.iccid_eq
  have hreported : second.Spares iccid imsi (second.observeImsi cfg modem) :=
    spares_observeImsi hreads
  have hthird := hsecond.trans hreported himsi.iccid_eq
  exact hthird.trans (hnames.spares iccid imsi) hnames.samePair.iccid_eq

theorem spares_observe {modem : Modem} {change : Change}
    (hfinds : .lookedUp (.imsiOf iccid) (.found imsi) ∉ run.since (run.observe cfg modem change))
    (hreads : change = .imsi → ¬ (known (run.observe cfg modem change).identity.iccid = some iccid ∧
      known modem.imsi = some imsi)) :
    run.Spares iccid imsi (run.observe cfg modem change) := by
  cases change with
  | iccid =>
    have hnote : AboutNames cfg run (run.note (.iccidReported modem.iccid)) :=
      AboutNames.refl.note _ trivial
    refine hnote.trans_spares (spares_observeIccid List.prefix_rfl fun h => hfinds ?_)
    refine mem_since_of_mem h (hnote.omits iccid imsi).trail_grows ?_
    exact (Works.refl.observeIccid modem).trail_grows
  | imsi =>
    obtain ⟨_, himsi⟩ := observeImsi_touches cfg modem run
    refine spares_observeImsi fun h => hreads rfl ?_
    show known (run.observeImsi cfg modem).identity.iccid = some iccid ∧ _
    rw [himsi.iccid_eq]
    exact h
  | spn => exact (AboutNames.refl.observeCardName modem).spares iccid imsi
  | network => exact (AboutNames.refl.observeNetwork modem).spares iccid imsi
  | networkStatus =>
    simp only [observe]
    split
    · exact (AboutNames.refl.adoptHomeOperator modem).spares iccid imsi
    · exact (@AboutNames.refl _ _ cfg run).spares iccid imsi

/-! ### Calls -/

/-- The call is a reason to hold that the card carries the subscription: it reads the subscription
from the modem while the card is tracked, or finds it for the card. -/
def Vouches (cfg : Config) (modem : Modem) (call : Call) (iccid imsi : String) (run : Run σ) :
    Prop :=
  let after := run.perform cfg modem call
  call.readsImsi = true ∧ known after.identity.iccid = some iccid ∧ known modem.imsi = some imsi ∨
    .lookedUp (.imsiOf iccid) (.found imsi) ∈ run.since after

instance (modem : Modem) (call : Call) (iccid imsi : String) (run : Run σ) :
    Decidable (run.Vouches cfg modem call iccid imsi) :=
  inferInstanceAs (Decidable (_ ∨ _))

theorem trail_grows_retryWrites (cfg : Config) (run : Run σ) :
    run.trail <+: (run.retryWrites cfg).trail := by
  cases hfailed : run.writeFailed with
  | false => rw [retryWrites_of_not_failed hfailed]
  | true => exact (List.prefix_append _ _).trans (works_retryWrites hfailed).trail_grows

theorem trail_grows_perform (cfg : Config) (modem : Modem) (call : Call) (run : Run σ) :
    (run.retryWrites cfg).trail <+: (run.perform cfg modem call).trail := by
  obtain ⟨later, hworks, hperform⟩ := perform_works cfg modem call run
  rw [hperform]
  exact hworks.trail_grows

theorem trail_grows_performAll (cfg : Config) (calls : List (Modem × Call)) (run : Run σ) :
    run.trail <+: (run.performAll cfg calls).trail := by
  induction calls generalizing run with
  | nil => exact List.prefix_rfl
  | cons head rest ih =>
    have hhead := (trail_grows_retryWrites cfg run).trans
      (trail_grows_perform cfg head.1 head.2 run)
    exact hhead.trans (ih _)

/-- Without a reason for it, a call does not save the subscription for the card, unless by trying
again. -/
theorem spares_perform {modem : Modem} {call : Call}
    (h : ¬ run.Vouches cfg modem call iccid imsi) :
    (run.retryWrites cfg).Spares iccid imsi (run.perform cfg modem call) := by
  obtain ⟨hreads, hfinds⟩ := not_or.1 h
  have hfinds' : .lookedUp (.imsiOf iccid) (.found imsi) ∉
      (run.retryWrites cfg).since (run.perform cfg modem call) :=
    fun hfound => hfinds (mem_since_of_mem hfound (trail_grows_retryWrites cfg run)
      (trail_grows_perform cfg modem call run))
  -- the announcement at the end is not part of the trail
  cases call with
  | resync =>
    have hspares := spares_observeAll hfinds' fun hread => hreads ⟨rfl, hread⟩
    exact ⟨⟨hspares.omits.trail_grows, hspares.omits.not_mem⟩, hspares.carried⟩
  | report change =>
    have hspares := spares_observe hfinds' fun himsi hread => hreads ⟨by rw [himsi]; rfl, hread⟩
    exact ⟨⟨hspares.omits.trail_grows, hspares.omits.not_mem⟩, hspares.carried⟩

end Run

/-! ### Trying again -/

/-- Of the texts that are owed, only the first one can be a subscription. -/
theorem Cache.mem_saveAll_owed_iff {knowledge : Knowledge} {store : σ} {outcome : Cache.Saving} :
    Event.saved (.imsiOf iccid) imsi outcome ∈
        (Cache.saveAll cfg knowledge.owed store).1.map (·.event) ↔
      knowledge.owed? .imsi = some (.imsiOf iccid, imsi) ∧
        (Cache.save cfg (.imsiOf iccid) imsi store).1 = outcome := by
  have hname (store : σ) : Event.saved (.imsiOf iccid) imsi outcome ∉
      (Cache.saveAll cfg (knowledge.owed? .name).toList store).1.map (·.event) := by
    intro hmem
    obtain ⟨attempt, hattempt, hsame⟩ := List.mem_map.1 hmem
    obtain ⟨entry, text, _⟩ := attempt
    cases hsame
    have howed := Option.mem_toList.1 (Cache.mem_of_mem_saveAll hattempt)
    cases Knowledge.kind_of_owed? howed
  simp only [Knowledge.owed]
  rw [saveAll_append, List.map_append, List.mem_append, or_iff_left (hname _)]
  cases knowledge.owed? .imsi with
  | none => simp [saveAll]
  | some owed =>
    obtain ⟨entry, text⟩ := owed
    simp only [Option.toList_some, saveAll, List.map_cons, List.map_nil, List.mem_singleton,
      Attempt.event, Option.some.injEq, Prod.mk.injEq, Event.saved.injEq]
    constructor
    · rintro ⟨rfl, rfl, rfl⟩
      exact ⟨⟨rfl, rfl⟩, rfl⟩
    · rintro ⟨⟨rfl, rfl⟩, rfl⟩
      exact ⟨rfl, rfl, rfl⟩

namespace Run

/-- Trying again saves the subscription for the card exactly if that failed and is still owed. -/
theorem saved_mem_since_retryWrites_iff {outcome : Cache.Saving} :
    .saved (.imsiOf iccid) imsi outcome ∈ run.since (run.retryWrites cfg) ↔
      run.writeFailed = true ∧ run.owed? .imsi = some (.imsiOf iccid, imsi) ∧
        (Cache.save cfg (.imsiOf iccid) imsi run.store).1 = outcome := by
  cases hfailed : run.writeFailed with
  | false =>
    rw [retryWrites_of_not_failed hfailed, since_of_trail_eq (List.append_nil _).symm]
    simp
  | true =>
    obtain ⟨moments, htrail, hmoments, -⟩ := (savesAll_retryWrites cfg hfailed).trail_eq
    have htrail' : (run.retryWrites cfg).trail =
        run.trail ++ ⟨{ run with writeFailed := false }.toKnowledge, .retrying⟩ :: moments := by
      rw [htrail, List.append_cons]
      rfl
    rw [since_of_trail_eq htrail', List.map_cons, hmoments]
    refine Iff.trans ?_ (and_iff_right rfl).symm
    rw [List.mem_cons, or_iff_right (fun h => by cases h)]
    exact Cache.mem_saveAll_owed_iff

/-- Without a reason for it, a call saves the subscription for the card only by trying again. -/
theorem saved_mem_since_perform_iff {modem : Modem} {call : Call} {outcome : Cache.Saving}
    (h : ¬ run.Vouches cfg modem call iccid imsi) :
    .saved (.imsiOf iccid) imsi outcome ∈ run.since (run.perform cfg modem call) ↔
      run.writeFailed = true ∧ run.owed? .imsi = some (.imsiOf iccid, imsi) ∧
        (Cache.save cfg (.imsiOf iccid) imsi run.store).1 = outcome := by
  rw [since_eq_append (trail_grows_retryWrites cfg run) (trail_grows_perform cfg modem call run),
    List.mem_append, or_iff_left ((spares_perform h).omits.not_mem outcome)]
  exact saved_mem_since_retryWrites_iff

/-- Without a reason for it, the subscription is owed for the card after a call only if it was
tracked and dirty before. -/
theorem carried_of_owed? {modem : Modem} {call : Call}
    (h : ¬ run.Vouches cfg modem call iccid imsi)
    (howed : (run.perform cfg modem call).owed? .imsi = some (.imsiOf iccid, imsi)) :
    known run.identity.imsi = some imsi ∧ run.imsiDirty = true := by
  obtain ⟨hdirty, hiccid, himsi⟩ := Knowledge.owed?_imsi_iff.1 howed
  obtain ⟨himsi', hdirty'⟩ := (spares_perform h).carried hiccid himsi hdirty
  cases hfailed : run.writeFailed with
  | false =>
    rw [retryWrites_of_not_failed hfailed] at himsi' hdirty'
    exact ⟨himsi', hdirty'⟩
  | true =>
    have hretried := savesAll_retryWrites cfg hfailed
    have hidentity : (run.retryWrites cfg).identity = run.identity :=
      (congrArg Knowledge.identity hretried.unmarked_eq :)
    rw [hidentity] at himsi'
    have hmark : (run.retryWrites cfg).dirty .imsi = true := hdirty'
    rw [hretried.dirty_eq] at hmark
    exact ⟨himsi', (Bool.and_eq_true_iff.1 hmark).1⟩

/-! ### Whole runs -/

/-- What happens in a run happens in one of its calls. -/
theorem mem_since_performAll_iff {event : Event} {calls : List (Modem × Call)} :
    event ∈ run.since (run.performAll cfg calls) ↔
      ∃ before modem call after, calls = before ++ (modem, call) :: after ∧
        event ∈ (run.performAll cfg before).since
          ((run.performAll cfg before).perform cfg modem call) := by
  induction calls generalizing run with
  | nil =>
    rw [performAll_nil, since_of_trail_eq (List.append_nil _).symm]
    simp
  | cons head rest ih =>
    obtain ⟨modem, call⟩ := head
    have hhead := (trail_grows_retryWrites cfg run).trans (trail_grows_perform cfg modem call run)
    rw [performAll_cons, since_eq_append hhead (trail_grows_performAll cfg rest _),
      List.mem_append, ih]
    constructor
    · rintro (hmem | ⟨before, modem', call', after, rfl, hmem⟩)
      · exact ⟨[], modem, call, rest, rfl, hmem⟩
      · exact ⟨(modem, call) :: before, modem', call', after, rfl, hmem⟩
    · rintro ⟨before, modem', call', after, hcalls, hmem⟩
      cases before with
      | nil =>
        cases hcalls
        exact .inl hmem
      | cons first before =>
        cases hcalls
        exact .inr ⟨before, modem', call', after, rfl, hmem⟩

/-- After some calls, the subscription has to be saved, though not for this card. Then the card is
put in, and from then on it has to be saved for the card. -/
structure CarriesOver (cfg : Config) (iccid imsi : String) (run : Run σ)
    (first : List (Modem × Call)) (swap : Modem × Call) (second : List (Modem × Call)) : Prop where
  /-- The card is not tracked yet. -/
  iccid_ne : known (run.performAll cfg first).identity.iccid ≠ some iccid
  /-- The subscription is. -/
  imsi_eq : known (run.performAll cfg first).identity.imsi = some imsi
  /-- It has to be saved. -/
  dirty : (run.performAll cfg first).imsiDirty = true
  /-- It has to be saved for the card from then on. -/
  owed : ∀ done, done <+: second →
    (run.performAll cfg (first ++ swap :: done)).owed? .imsi = some (.imsiOf iccid, imsi)

/-- Without a reason for it, a subscription is only owed for a card if it was carried over. -/
theorem carriesOver_of_owed? {calls : List (Modem × Call)}
    (hcard : known run.identity.iccid ≠ some iccid)
    (hnone : ∀ before modem call after, calls = before ++ (modem, call) :: after →
      ¬ (run.performAll cfg before).Vouches cfg modem call iccid imsi)
    (howed : (run.performAll cfg calls).owed? .imsi = some (.imsiOf iccid, imsi)) :
    ∃ first swap second, calls = first ++ swap :: second ∧
      run.CarriesOver cfg iccid imsi first swap second := by
  induction calls using List.reverseRecOn with
  | nil => exact absurd (Knowledge.owed?_imsi_iff.1 howed).2.1 hcard
  | append_singleton calls last ih =>
    obtain ⟨modem, call⟩ := last
    have hlast := hnone calls modem call [] rfl
    rw [performAll_append] at howed
    obtain ⟨himsi, hdirty⟩ := carried_of_owed? hlast howed
    by_cases hiccid : known (run.performAll cfg calls).identity.iccid = some iccid
    · -- the card was there before the last call, so it was put in earlier
      obtain ⟨first, swap, second, rfl, hcarries⟩ := ih
        (fun before modem' call' after hcalls =>
          hnone before modem' call' (after ++ [(modem, call)])
            (by rw [hcalls, List.append_assoc, List.cons_append]))
        (Knowledge.owed?_imsi_iff.2 ⟨hdirty, hiccid, himsi⟩)
      refine ⟨first, swap, second ++ [(modem, call)], by simp, ?_⟩
      refine { hcarries with owed := fun done hdone => ?_ }
      rcases List.prefix_concat_iff.1 hdone with rfl | hdone
      · rw [← List.cons_append, ← List.append_assoc, performAll_append]
        exact howed
      · exact hcarries.owed done hdone
    · refine ⟨calls, (modem, call), [], rfl, hiccid, himsi, hdirty, fun done hdone => ?_⟩
      rw [List.prefix_nil.1 hdone, performAll_append]
      exact howed

end Run

variable {calls : List (Modem × Call)}

/-- **A subscription that nothing vouched for.** Take a run over any stores in which a card is not
tracked at first, and no call is a reason to hold that it carries the subscription. In the course of
the run, to save the subscription for the card comes to a given outcome exactly if it had to be saved
when the card was put in, has had to be since, and a failed write is then tried again, with this
outcome. The write that failed may have been any other. -/
theorem unvouched_pair_is_saved_iff (hcard : known run.identity.iccid ≠ some iccid)
    (hnone : ∀ before modem call after, calls = before ++ (modem, call) :: after →
      ¬ (run.performAll cfg before).Vouches cfg modem call iccid imsi) (outcome : Cache.Saving) :
    .saved (.imsiOf iccid) imsi outcome ∈ run.since (run.performAll cfg calls) ↔
      ∃ first swap second retry last, calls = first ++ swap :: second ++ retry :: last ∧
        run.CarriesOver cfg iccid imsi first swap second ∧
        let failed := run.performAll cfg (first ++ swap :: second)
        failed.writeFailed = true ∧
          (Cache.save cfg (.imsiOf iccid) imsi failed.store).1 = outcome := by
  rw [Run.mem_since_performAll_iff]
  constructor
  · rintro ⟨before, modem, call, after, rfl, hmem⟩
    have hcall := hnone before modem call after rfl
    obtain ⟨hfailed, howed, houtcome⟩ := (Run.saved_mem_since_perform_iff hcall).1 hmem
    obtain ⟨first, swap, second, rfl, hcarries⟩ := Run.carriesOver_of_owed? hcard
      (fun earlier modem' call' later hbefore => hnone earlier modem' call'
        (later ++ (modem, call) :: after) (by rw [hbefore, List.append_assoc, List.cons_append]))
      howed
    exact ⟨first, swap, second, (modem, call), after, rfl, hcarries, hfailed, houtcome⟩
  · rintro ⟨first, swap, second, ⟨modem, call⟩, last, rfl, hcarries, hfailed, houtcome⟩
    refine ⟨first ++ swap :: second, modem, call, last, rfl, ?_⟩
    have hcall := hnone (first ++ swap :: second) modem call last rfl
    exact (Run.saved_mem_since_perform_iff hcall).2
      ⟨hfailed, hcarries.owed second List.prefix_rfl, houtcome⟩

/-- The subscription of the first card could not be saved, neither at the start nor when another
card was put in. At the next report, whatever it is about, it is saved for that card. -/
theorem pair_of_other_card_is_saved :
    let card : Modem := { path := "/ril_0", iccid := some "8901", imsi := some "00101" }
    let other : Modem := { path := "/ril_0", iccid := some "8902" }
    let run := Run.start {} card ({ commitPlan := [false, false] } : UnreliableStore)
    let calls := [(other, Call.report .iccid), (other, Call.report .networkStatus)]
    known run.identity.iccid ≠ some "8902" ∧
      (∀ before modem call after, calls = before ++ (modem, call) :: after →
        ¬ (run.performAll {} before).Vouches {} modem call "8902" "00101") ∧
      .saved (.imsiOf "8902") "00101" .written ∈ run.since (run.performAll {} calls) := by
  intro card other run calls
  have hcard : known run.identity.iccid ≠ some "8902" := by decide +kernel
  have hnone : ∀ before modem call after, calls = before ++ (modem, call) :: after →
      ¬ (run.performAll {} before).Vouches {} modem call "8902" "00101" := by
    intro before modem call after hcalls
    obtain ⟨rfl, hhead⟩ | ⟨before, rfl, hrest⟩ := List.cons_eq_append_iff.1 hcalls
    · cases hhead
      decide +kernel
    · obtain ⟨rfl, hhead⟩ | ⟨before, rfl, hnil⟩ := List.cons_eq_append_iff.1 hrest
      · cases hhead
        decide +kernel
      · exact absurd hnil.symm (List.append_ne_nil_of_right_ne_nil _ (List.cons_ne_nil _ _))
  refine ⟨hcard, hnone, (unvouched_pair_is_saved_iff hcard hnone .written).2 ?_⟩
  refine ⟨[], (other, .report .iccid), [], (other, .report .networkStatus), [], rfl, ?_, ?_, ?_⟩
  · refine ⟨hcard, by decide +kernel, by decide +kernel, fun done hdone => ?_⟩
    rw [List.prefix_nil.1 hdone]
    decide +kernel
  · decide +kernel
  · decide +kernel

/-- So the memory tells the subscription of a card for another card, which never had it. -/
theorem cache_pairs_card_with_foreign_subscription :
    let card : Modem := { path := "/ril_0", iccid := some "8901", imsi := some "00101" }
    let other : Modem := { path := "/ril_0", iccid := some "8902" }
    let run := Run.start {} card ({ commitPlan := [false, false] } : UnreliableStore)
    let swapped := run.handle {} other .iccid
    let after := swapped.handle {} other .networkStatus
    Reachable {} after ∧ run.identity.iccid = some "8901" ∧ run.identity.imsi = some "00101" ∧
      swapped.identity.iccid = some "8902" ∧ after.identity.iccid = some "8902" ∧
      other.imsi = none ∧
      .lookedUp (.imsiOf "8902") .missing ∈ run.since swapped ∧
      swapped.store.memory.cached {} (.imsiOf "8902") = none ∧
      after.store.memory.cached {} (.imsiOf "8902") = some "00101" := by
  intro card other run swapped after
  have hswapped : Reachable {} swapped := .perform other (.report .iccid) (.start card _)
  refine ⟨hswapped.perform other (.report .networkStatus), ?_⟩
  decide +kernel

end SimIdentity
