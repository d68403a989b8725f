import SimIdentity.Proofs.Start

/-!
# Starting again

A tracker is released, and another one is made for the same modem, which shows what it showed
before. If the first one left everything in the cache that it had to say, the second one has
nothing to write.

So it is, but for two kinds of card (`RestartWrites`), both at home in their own network. The
operator's name is saved before the card has been asked for its own name, which then has to be
saved again in its place. And if the card reports another subscription than the one the cache
knew it by, the operator's name is saved for the wrong one first, and the right one is left
without a name until the next start.
-/

namespace SimIdentity

/-- The cards at home for which a second start writes again. -/
inductive RestartWrites (entries : Cache.Entry → Option String) (modem : Modem) : Prop where
  /-- The operator's name is saved, and then overwritten by another one that is on the card. -/
  | overwritten {iccid operator name imsi : String} :
      known modem.iccid = some iccid → modem.homeOperator? = some operator →
      known modem.spn = some name → name ≠ operator →
      (known modem.imsi <|> known (entries (.imsiOf iccid))) = some imsi →
      RestartWrites entries modem
  /-- The operator's name was saved for the subscription the cache had told, which is not the
  one that the card reports. -/
  | misplaced {iccid operator reported recorded : String} :
      known modem.iccid = some iccid → modem.homeOperator? = some operator →
      known modem.spn = none → known modem.imsi = some reported →
      known (entries (.imsiOf iccid)) = some recorded → recorded ≠ reported →
      known (entries (.nameOf reported)) = none →
      RestartWrites entries modem

namespace Ledger

variable {imsi : String} {modem : Modem} {entries : Cache.Entry → Option String} {committed : Nat}

/-! ### Two starts -/

/-- Of two names that were left by a start, the second start saves none, unless they differ. -/
theorem quiet_iff (spn operator told : Option String) :
    ((operator <|> ((spn <|> operator) <|> told)) = ((spn <|> operator) <|> told) ∧
        ((spn <|> operator) <|> ((spn <|> operator) <|> told)) =
          ((spn <|> operator) <|> told)) ↔
      ∀ name home, spn = some name → operator = some home → name = home := by
  cases spn with
  | none =>
    cases operator with
    | none => exact iff_of_true ⟨rfl, rfl⟩ fun _ _ h => by cases h
    | some home => exact iff_of_true ⟨rfl, rfl⟩ fun _ _ h => by cases h
  | some name =>
    cases operator with
    | none => exact iff_of_true ⟨rfl, rfl⟩ fun _ _ _ h => by cases h
    | some home =>
      constructor
      · rintro ⟨h, -⟩ _ _ ⟨⟩ ⟨⟩
        exact (Option.some.inj h).symm
      · intro h
        obtain rfl := h name home rfl rfl
        exact ⟨rfl, rfl⟩

/-- The second start, if the first one left the card's subscription in the cache and the best
name there is for it. -/
theorem committed_of_told {iccid : String}
    (hiccid : known modem.iccid = some iccid)
    (hsubscription : (known modem.imsi <|> known (entries (.imsiOf iccid))) = some imsi)
    (hplaced : known modem.spn = none → ∀ recorded, known modem.imsi = some imsi →
      known (entries (.imsiOf iccid)) = some recorded → recorded ≠ imsi →
      known (entries (.nameOf imsi)) ≠ none)
    (first : Ledger) (told : Option String)
    (htoldImsi : toldImsi first.entries (known modem.iccid) = some imsi)
    (htoldName : toldName first.entries (some imsi) =
      ((known modem.spn <|> modem.homeOperator?) <|> told)) :
    (observeAll modem { entries := first.entries, committed := first.committed }).committed =
      first.committed ↔ ¬ RestartWrites entries modem := by
  have hreported : ∀ reported, known modem.imsi = some reported → reported = imsi := by
    intro reported h
    rw [h] at hsubscription
    exact Option.some.inj hsubscription
  rw [committed_of_recognized htoldImsi hreported, htoldName, quiet_iff]
  constructor
  · rintro hsame (⟨_, hhome, hspn, hdiffers, -⟩ | ⟨h, hhome, hspn, himsi, hrecorded, hother, hname⟩)
    · exact hdiffers (hsame _ _ hspn hhome)
    · obtain rfl := hreported _ himsi
      cases hiccid.symm.trans h
      exact hplaced hspn _ himsi hrecorded hother hname
  · intro hquiet name operator hspn hhome
    refine Decidable.byContradiction fun hdiffers => ?_
    exact hquiet (.overwritten hiccid hhome hspn hdiffers hsubscription)

section Again

variable {first : Ledger} (hfirst : observeAll modem { entries, committed } = first)
include hfirst

theorem again_of_unidentified (hrecorded : toldImsi entries (known modem.iccid) = none)
    (hreported : known modem.imsi = none) :
    (observeAll modem { entries := first.entries, committed := first.committed }).committed =
      first.committed ↔ ¬ RestartWrites entries modem := by
  have hcache := @observeAll_of_unidentified modem entries committed hrecorded hreported
  rw [hfirst] at hcache
  rw [hcache.entries_eq]
  refine iff_of_true (observeAll_of_unidentified hrecorded hreported).committed_eq ?_
  rintro (⟨hiccid, -, -, -, hsubscription⟩ | ⟨-, -, -, himsi, -, -, -⟩)
  · rw [hreported] at hsubscription
    rw [hiccid] at hrecorded
    cases hrecorded.symm.trans hsubscription
  · cases hreported.symm.trans himsi

theorem again_of_new (hrecorded : toldImsi entries (known modem.iccid) = none)
    (hreported : known modem.imsi = some imsi) :
    (observeAll modem { entries := first.entries, committed := first.committed }).committed =
      first.committed ↔ ¬ RestartWrites entries modem := by
  obtain ⟨htoldImsi, htoldName⟩ := @told_of_new imsi modem entries committed hrecorded hreported
  rw [hfirst] at htoldImsi htoldName
  cases hiccid : known modem.iccid with
  | none =>
    refine iff_of_true (committed_of_anonymous hiccid hreported ?_) ?_
    · rw [htoldName]
      cases known modem.spn <;> cases modem.homeOperator? <;> rfl
    · rintro (⟨h, -, -, -, -⟩ | ⟨h, -, -, -, -, -, -⟩)
      · cases hiccid.symm.trans h
      · cases hiccid.symm.trans h
  | some iccid =>
    rw [hiccid] at hrecorded
    refine committed_of_told hiccid (by rw [hreported]; rfl) (fun _ _ _ h => ?_) first _
      (by rw [hiccid]; exact htoldImsi iccid hiccid) htoldName
    cases hrecorded.symm.trans h

theorem again_of_recognized (hrecorded : toldImsi entries (known modem.iccid) = some imsi)
    (hreported : ∀ reported, known modem.imsi = some reported → reported = imsi) :
    (observeAll modem { entries := first.entries, committed := first.committed }).committed =
      first.committed ↔ ¬ RestartWrites entries modem := by
  obtain ⟨iccid, hiccid, hentry⟩ := Option.bind_eq_some_iff.1 hrecorded
  obtain ⟨htoldImsi, htoldName⟩ :=
    @told_of_recognized imsi modem entries committed hrecorded hreported
  rw [hfirst] at htoldImsi htoldName
  refine committed_of_told hiccid ?_ (fun _ _ _ h hother => ?_) first _ htoldImsi htoldName
  · cases himsi : known modem.imsi with
    | none => exact hentry
    | some reported => exact congrArg some (hreported reported himsi)
  · exact (hother (Option.some.inj (h.symm.trans hentry))).elim

theorem again_of_replaced {old : String}
    (hrecorded : toldImsi entries (known modem.iccid) = some old)
    (hreported : known modem.imsi = some imsi) (hold : old ≠ imsi) :
    (observeAll modem { entries := first.entries, committed := first.committed }).committed =
      first.committed ↔ ¬ RestartWrites entries modem := by
  obtain ⟨iccid, hiccid, hentry⟩ := Option.bind_eq_some_iff.1 hrecorded
  obtain ⟨htoldImsi, htoldName⟩ :=
    @told_of_replaced imsi modem entries committed old hrecorded hreported hold
  rw [hfirst] at htoldImsi htoldName
  by_cases hlost : known modem.spn = none ∧ toldName entries (some imsi) = none
  · obtain ⟨hspn, hname⟩ := hlost
    rw [if_pos hname, hspn] at htoldName
    rw [committed_of_recognized htoldImsi fun _ h => Option.some.inj (h.symm.trans hreported),
      htoldName, hspn]
    cases hhome : modem.homeOperator? with
    | none =>
      refine iff_of_true ⟨rfl, rfl⟩ ?_
      rintro (⟨-, h, -, -, -⟩ | ⟨-, h, -, -, -, -, -⟩)
      · cases hhome.symm.trans h
      · cases hhome.symm.trans h
    | some operator =>
      refine iff_of_false (fun h => Option.some_ne_none operator h.1) fun h => h ?_
      exact .misplaced hiccid hhome hspn hreported hentry hold hname
  · refine committed_of_told hiccid (by rw [hreported]; rfl) (fun hspn _ _ _ _ hname => ?_) first
      (toldName entries (some imsi)) htoldImsi ?_
    · exact hlost ⟨hspn, hname⟩
    · rw [htoldName]
      split
      case isTrue hname =>
        cases hspn : known modem.spn with
        | none => exact (hlost ⟨hspn, hname⟩).elim
        | some name => rfl
      case isFalse => rfl

/-- After a start, a second one with the same modem commits nothing, but for the cards of
`RestartWrites`. -/
theorem committed_again :
    (observeAll modem { entries := first.entries, committed := first.committed }).committed =
      first.committed ↔ ¬ RestartWrites entries modem := by
  cases hrecorded : toldImsi entries (known modem.iccid) with
  | none =>
    cases hreported : known modem.imsi with
    | none => exact again_of_unidentified hfirst hrecorded hreported
    | some imsi => exact again_of_new hfirst hrecorded hreported
  | some recorded =>
    cases hreported : known modem.imsi with
    | none =>
      refine again_of_recognized hfirst hrecorded fun _ h => ?_
      cases hreported.symm.trans h
    | some imsi =>
      by_cases hsame : imsi = recorded
      · refine again_of_recognized hfirst hrecorded fun _ h => ?_
        exact (Option.some.inj (h.symm.trans hreported)).trans hsame
      · exact again_of_replaced hfirst hrecorded hreported (Ne.symm hsame)

end Again

end Ledger

/-! ### Two trackers -/

/-- A tracker that is made for a modem another one was just released from commits nothing and
leaves everything stored as it is, but for the cards of `RestartWrites`. -/
theorem restart_writes_nothing_iff (cfg : Config) (modem : Modem) {store : VolatileStore}
    (h : store.available = true) :
    let first := Run.start cfg modem store
    let second := Run.start cfg modem first.release.store
    (second.store.committed = first.store.committed ∧
        ∀ address, second.store.get? address = first.store.get? address) ↔
      ¬ RestartWrites (store.cached cfg) modem := by
  intro first second
  have havailable : first.store.available = true := (Run.uses_start cfg modem store).available h
  have hquiet : second.store.committed = first.store.committed →
      ∀ address, second.store.get? address = first.store.get? address :=
    ((Run.uses_start cfg modem first.store).quiet havailable).2
  have hfirst : Ledger.observeAll modem
      { entries := store.cached cfg, committed := store.committed } = first.ledger cfg :=
    (Run.ledger_start h modem).symm
  have hsecond : second.store.committed = (Ledger.observeAll modem
      { entries := first.store.cached cfg, committed := first.store.committed }).committed :=
    congrArg Ledger.committed (Run.ledger_start havailable modem)
  have hagain := Ledger.committed_again hfirst
  rw [and_iff_left_of_imp hquiet, hsecond]
  exact hagain

/-- Out of coverage, everything is saved by the first tracker. -/
theorem restart_offline_writes_nothing :
    (∅ : VolatileStore).available = true ∧
      let first := Run.start {} { Modem.atHome with network := none } (∅ : VolatileStore)
      let second := Run.start {} { Modem.atHome with network := none } first.release.store
      second.store.committed = first.store.committed ∧
        ∀ address, second.store.get? address = first.store.get? address := by
  refine ⟨rfl, (restart_writes_nothing_iff {} { Modem.atHome with network := none } rfl).2 ?_⟩
  rintro (⟨-, hhome, -, -, -⟩ | ⟨-, hhome, -, -, -, -, -⟩)
  · cases hhome
  · cases hhome

/-- At home, each tracker saves the operator's name, and then the card's own one. -/
theorem restart_at_home_writes_twice :
    let first := Run.start {} Modem.atHome (∅ : VolatileStore)
    let second := Run.start {} Modem.atHome first.release.store
    (∅ : VolatileStore).available = true ∧
      second.store.committed = first.store.committed + 2 := by
  decide +kernel

end SimIdentity
