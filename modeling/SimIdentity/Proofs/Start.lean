import SimIdentity.Proofs.Settled

/-!
# What a start leaves

A tracker begins with nothing but what the cache tells about the card, and then observes all that
the modem shows. What comes of it depends on how the card is known to the cache: not at all
(`observeAll_of_new`), by the subscription that the modem shows (`observeAll_of_recognized`), or
by another one (`observeAll_of_replaced`).

In the end the cache knows the subscription, and the name it tells for it is the one on the card
if there is one, or else the operator's if the card is at home, or else the one it has told
before. There is an exception: for a card that was known by another subscription, the operator's
name is saved for that one, and not for the right one unless the cache has told a name for it.
-/

namespace SimIdentity

namespace Ledger

variable {imsi : String} {modem : Modem}

/-! ### A start -/

variable {entries : Cache.Entry → Option String} {committed : Nat}

/-- The ledger of a start that has looked up the card in the cache. -/
def recognized (entries : Cache.Entry → Option String) (committed : Nat) (modem : Modem) :
    Ledger where
  entries := entries
  committed := committed
  iccid := known modem.iccid
  imsi := toldImsi entries (known modem.iccid)
  cachedName := toldName entries (toldImsi entries (known modem.iccid))

theorem settled_recognized (h : toldImsi entries (known modem.iccid) = some imsi) :
    (recognized entries committed modem).Settled imsi where
  imsi_ne := fun hempty => toldImsi_ne_empty entries _ (by rw [h, hempty])
  imsi_eq := h
  clean := rfl
  told := congrArg (toldName entries) h.symm

theorem names_ne_empty (modem : Modem) : (known modem.spn <|> modem.homeOperator?) ≠ some "" := by
  cases hspn : known modem.spn with
  | none => exact modem.homeOperator?_ne_empty
  | some name =>
    show some name ≠ some ""
    rw [← hspn]
    exact known_ne_empty _

theorem waiting_ne_empty (name? : Option String) (modem : Modem) :
    (if name? = none then modem.homeOperator? else none) ≠ some "" := by
  split
  · exact modem.homeOperator?_ne_empty
  · exact (Option.some_ne_none _).symm

/-- A start with a card that the cache knows by the subscription the modem shows, or by some
subscription while the modem shows none. -/
theorem observeAll_of_recognized (h : toldImsi entries (known modem.iccid) = some imsi)
    (hreported : ∀ reported, known modem.imsi = some reported → reported = imsi) :
    SameCache (observeAll modem { entries, committed })
      (((recognized entries committed modem).named imsi modem.homeOperator?).named imsi
        (known modem.spn <|> modem.homeOperator?)) := by
  have hsettled := @settled_recognized imsi modem entries committed h
  have hnamed := hsettled.named modem.homeOperator?_ne_empty
  simp only [observeAll]
  rw [observeIccid_blank, ← recognized, hsettled.adoptHomeOperator rfl,
    hnamed.observeImsi hreported]
  exact hnamed.observeNames cardName_named modem

/-- A start with a card that the cache does not know. -/
theorem observeAll_of_new (h : toldImsi entries (known modem.iccid) = none)
    (hreported : known modem.imsi = some imsi) :
    ∃ settled : Ledger, settled.Settled imsi ∧
      settled.cachedName = toldName entries (some imsi) ∧
      (∀ iccid, known modem.iccid = some iccid → settled.entries (.imsiOf iccid) = some imsi) ∧
      (known modem.iccid = none → settled.committed = committed) ∧
      SameCache (observeAll modem { entries, committed })
        ((settled.named imsi
          (if settled.cachedName = none then modem.homeOperator? else none)).named imsi
            (known modem.spn <|> modem.homeOperator?)) := by
  have himsi : imsi ≠ "" := (known_eq_some_iff.1 hreported).2
  have hiccid : known (known modem.iccid) = known modem.iccid := known_eq_self (known_ne_empty _)
  obtain ⟨settled, hsettled, hcard, hcached, himsiOf, hcommitted, hadopt⟩ :=
    @adoptImsi_of_waiting { recognized entries committed modem with
      cachedName := modem.homeOperator?, nameDirty := modem.homeOperator?.isSome } imsi himsi
      (h.trans_ne (Option.some_ne_none imsi).symm) rfl rfl modem.homeOperator?_ne_empty
  have hnamed : (settled.named imsi
      (if settled.cachedName = none then modem.homeOperator? else none)).Settled imsi :=
    hsettled.named (waiting_ne_empty _ modem)
  refine ⟨settled, hsettled, hcached, fun iccid hknown => himsiOf iccid ?_, fun hknown =>
    hcommitted ?_, ?_⟩
  · exact hiccid.trans hknown
  · exact hiccid.trans hknown
  · unfold observeAll observeImsi
    rw [observeIccid_blank, ← recognized,
      @adoptHomeOperator_of_imsi_none (recognized entries committed modem) h rfl
        (congrArg (toldName entries) h) rfl, hreported]
    dsimp only
    rw [hadopt]
    exact hnamed.observeNames (cardName_named.trans hcard) modem

/-- A start with a card that the cache knows by another subscription than the modem shows. The
operator's name is saved for the subscription in the cache, and is not saved for the right one
if that has no name. -/
theorem observeAll_of_replaced {old : String}
    (h : toldImsi entries (known modem.iccid) = some old)
    (hreported : known modem.imsi = some imsi) (hold : old ≠ imsi) :
    ∃ later : Ledger,
      toldName later.entries (some imsi) = toldName entries (some imsi) ∧
      (∀ iccid, known modem.iccid = some iccid → later.entries (.imsiOf iccid) = some imsi) ∧
      SameCache (observeAll modem { entries, committed })
        (later.named imsi
          (if toldName entries (some imsi) = none then known modem.spn
            else known modem.spn <|> modem.homeOperator?)) := by
  have himsi : imsi ≠ "" := (known_eq_some_iff.1 hreported).2
  have hiccid : known (known modem.iccid) = known modem.iccid := known_eq_self (known_ne_empty _)
  have hsettled := @settled_recognized old modem entries committed h
  have hnamed := hsettled.named modem.homeOperator?_ne_empty
  obtain ⟨moved, hmoved, hadopt⟩ :=
    adoptImsi_eq himsi (hnamed.imsi_eq.trans_ne fun heq => hold (Option.some.inj heq))
  have htoldName : toldName ((recognized entries committed modem).named old
      modem.homeOperator?).entries (some imsi) = toldName entries (some imsi) :=
    congrArg known (entries_named fun heq => hold (Cache.Entry.nameOf.inj heq).symm)
  refine ⟨moved, hmoved.toldName_eq.trans htoldName, fun iccid hknown => ?_, ?_⟩
  · refine hmoved.imsiOf iccid ?_
    rw [iccid_named]
    exact hiccid.trans hknown
  · simp only [observeAll, observeImsi]
    rw [observeIccid_blank, ← recognized, hsettled.adoptHomeOperator rfl, hreported]
    dsimp only
    rw [hadopt]
    cases htold : toldName entries (some imsi) with
    | some name =>
      exact hmoved.observeNames_of_told himsi cardName_named (htoldName.trans htold) modem
    | none =>
      refine hmoved.observeNames_of_untold himsi cardName_named hnamed.clean ?_
        (htoldName.trans htold)
      intro operator hoperator
      rw [cachedName_named, hoperator]
      rfl

/-- Without a subscription nothing is saved. -/
theorem observeAll_of_unidentified (h : toldImsi entries (known modem.iccid) = none)
    (hreported : known modem.imsi = none) :
    SameCache (observeAll modem { entries, committed }) { entries, committed } := by
  have himsi : known (recognized entries committed modem).imsi = none := by
    show known (toldImsi entries (known modem.iccid)) = none
    rw [h, known_none]
  obtain ⟨cachedName, nameDirty, hhome⟩ := @adoptHomeOperator_touches _ himsi modem
  obtain ⟨cardName, cachedName, nameDirty, hcard⟩ := @observeCardName_touches
    { recognized entries committed modem with cachedName, nameDirty } himsi modem
  obtain ⟨_, _, hlast⟩ := @adoptHomeOperator_touches
    { recognized entries committed modem with cardName, cachedName, nameDirty } himsi modem
  simp only [observeAll, observeImsi]
  rw [observeIccid_blank, ← recognized, hreported]
  dsimp only
  rw [hhome, hcard, hlast]
  exact ⟨rfl, rfl⟩

/-! ### What a start leaves, and what it costs -/

/-- A start with a card that is recognized leaves the best name there is in the cache. -/
theorem told_of_recognized (h : toldImsi entries (known modem.iccid) = some imsi)
    (hreported : ∀ reported, known modem.imsi = some reported → reported = imsi) :
    toldImsi (observeAll modem { entries, committed }).entries (known modem.iccid) = some imsi ∧
      toldName (observeAll modem { entries, committed }).entries (some imsi) =
        ((known modem.spn <|> modem.homeOperator?) <|> toldName entries (some imsi)) := by
  rw [(observeAll_of_recognized h hreported).entries_eq]
  constructor
  · rw [toldImsi_named, toldImsi_named]
    exact h
  · rw [toldName_named (names_ne_empty modem), toldName_named modem.homeOperator?_ne_empty]
    cases known modem.spn <;> cases modem.homeOperator? <;> rfl

/-- It costs nothing if that name is in the cache already, and the operator's name does not
stand in between. -/
theorem committed_of_recognized (h : toldImsi entries (known modem.iccid) = some imsi)
    (hreported : ∀ reported, known modem.imsi = some reported → reported = imsi) :
    (observeAll modem { entries, committed }).committed = committed ↔
      (modem.homeOperator? <|> toldName entries (some imsi)) = toldName entries (some imsi) ∧
        ((known modem.spn <|> modem.homeOperator?) <|> toldName entries (some imsi)) =
          toldName entries (some imsi) := by
  have hsettled := @settled_recognized imsi modem entries committed h
  rw [(observeAll_of_recognized h hreported).committed_eq]
  refine (hsettled.committed_named_named modem.homeOperator?_ne_empty
    (names_ne_empty modem)).trans ?_
  rw [← hsettled.told]
  exact Iff.rfl

/-- A start with a new card leaves the card's subscription in the cache, and the best name there
is for it. -/
theorem told_of_new (h : toldImsi entries (known modem.iccid) = none)
    (hreported : known modem.imsi = some imsi) :
    (∀ iccid, known modem.iccid = some iccid →
        toldImsi (observeAll modem { entries, committed }).entries (some iccid) = some imsi) ∧
      toldName (observeAll modem { entries, committed }).entries (some imsi) =
        ((known modem.spn <|> modem.homeOperator?) <|> toldName entries (some imsi)) := by
  obtain ⟨settled, hsettled, hcached, himsiOf, -, hcache⟩ :=
    @observeAll_of_new imsi modem entries committed h hreported
  rw [hcache.entries_eq]
  constructor
  · intro iccid hiccid
    rw [toldImsi_named, toldImsi_named]
    show known (settled.entries (.imsiOf iccid)) = some imsi
    rw [himsiOf iccid hiccid, known_some hsettled.imsi_ne]
  · rw [toldName_named (names_ne_empty modem), toldName_named (waiting_ne_empty _ modem),
      hsettled.told, hcached]
    cases known modem.spn <;> cases modem.homeOperator? <;>
      cases toldName entries (some imsi) <;> rfl

/-- Without a serial number nothing is saved for the card, and a name that the cache tells
already costs nothing. -/
theorem committed_of_anonymous (hiccid : known modem.iccid = none)
    (hreported : known modem.imsi = some imsi)
    (htold : ((known modem.spn <|> modem.homeOperator?) <|> toldName entries (some imsi)) =
      toldName entries (some imsi)) :
    (observeAll modem { entries, committed }).committed = committed := by
  have hnone : toldImsi entries (known modem.iccid) = none := by rw [hiccid]; rfl
  obtain ⟨settled, hsettled, hcached, -, hcommitted, hcache⟩ :=
    @observeAll_of_new imsi modem entries committed hnone hreported
  rw [hcache.committed_eq, ← hcommitted hiccid]
  refine (hsettled.committed_named_named (waiting_ne_empty _ modem)
    (names_ne_empty modem)).2 ⟨?_, ?_⟩
  · rw [hcached]
    cases hname : toldName entries (some imsi) with
    | none =>
      rw [hname] at htold
      cases hspn : known modem.spn with
      | none =>
        rw [hspn] at htold
        exact htold
      | some name =>
        rw [hspn] at htold
        cases htold
    | some name => rfl
  · rw [hcached]
    exact htold

/-- A start with a card that has got another subscription leaves that in the cache. Its name is
there, too, unless nothing but the operator tells it. -/
theorem told_of_replaced {old : String} (h : toldImsi entries (known modem.iccid) = some old)
    (hreported : known modem.imsi = some imsi) (hold : old ≠ imsi) :
    toldImsi (observeAll modem { entries, committed }).entries (known modem.iccid) = some imsi ∧
      toldName (observeAll modem { entries, committed }).entries (some imsi) =
        if toldName entries (some imsi) = none then known modem.spn
        else ((known modem.spn <|> modem.homeOperator?) <|> toldName entries (some imsi)) := by
  obtain ⟨later, hlater, himsiOf, hcache⟩ :=
    @observeAll_of_replaced imsi modem entries committed old h hreported hold
  have hnames : (if toldName entries (some imsi) = none then known modem.spn
      else known modem.spn <|> modem.homeOperator?) ≠ some "" := by
    split
    · exact known_ne_empty _
    · exact names_ne_empty modem
  rw [hcache.entries_eq, toldImsi_named, toldName_named hnames, hlater]
  constructor
  · cases hiccid : known modem.iccid with
    | none =>
      rw [hiccid] at h
      contradiction
    | some iccid =>
      show known (later.entries (.imsiOf iccid)) = some imsi
      rw [himsiOf iccid hiccid]
      exact known_some (known_eq_some_iff.1 hreported).2
  · cases toldName entries (some imsi) <;> cases known modem.spn <;> rfl

end Ledger

end SimIdentity
