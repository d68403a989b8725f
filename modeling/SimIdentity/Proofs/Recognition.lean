import SimIdentity.Proofs.Alike
import SimIdentity.Proofs.Loss
import SimIdentity.Proofs.Order

/-!
# Recognizing a card

A card is put in where none was tracked, and the cache may know it. Then its subscription and its
name are there at once, before the card itself has told them. Nothing is written for it. If
something is still marked as dirty on account of the card before, then what was just found is saved
in its place, and that is in the memory already.

The name is found in two steps. With the subscription comes the fallback name, which is shown until
the cache tells a better one. Since no name was shown before, the one that is there in the end is
another one in any case, and the signals are exactly those of the parts that are known afterwards
(`due_observeIccid_of_vacant`).

## What is proved

`card_recognized_from_cache`: the identity that is shown, what is sent, and that nothing is written.
The run may have come about over any stores, so that any writes may be pending.
-/

namespace SimIdentity

/-- No card is known. There may still be something to write. -/
structure Knowledge.Vacant (knowledge : Knowledge) : Prop where
  /-- There is no serial number. -/
  iccid_eq : knowledge.identity.iccid = none
  /-- There is no subscription. -/
  imsi_eq : knowledge.identity.imsi = none
  /-- The card has no name. -/
  cardName_eq : knowledge.cardName = none
  /-- There is no name for the cache. -/
  cachedName_eq : knowledge.cachedName = none
  /-- The home network is unknown. -/
  fallback_eq : knowledge.fallback = ∅

/-- Nothing is shown of a card that is not known. -/
theorem Knowledge.Vacant.part_eq {knowledge : Knowledge} (hvacant : knowledge.Vacant)
    (h : knowledge.Coherent) (signal : Signal) : knowledge.identity.part signal = none := by
  cases signal with
  | iccid => exact hvacant.iccid_eq
  | imsi => exact hvacant.imsi_eq
  | spn =>
    show knowledge.identity.spn = none
    rw [h.spn_eq, hvacant.cardName_eq, hvacant.cachedName_eq, hvacant.fallback_eq]
    rfl

namespace Run

variable {σ : Type} [StringStore σ] {cfg : Config} {modem : Modem} {iccid : String} {run : Run σ}

/-- Without a subscription and a name there is nothing that could be written. -/
theorem retryWrites_of_vacant (cfg : Config) (h : run.Vacant) :
    ∃ trail writeFailed, run.retryWrites cfg = { run with trail, writeFailed } := by
  simp only [retryWrites]
  split
  · have himsi : (({ run with writeFailed := false }.note .retrying).persistImsi cfg) =
        { run with writeFailed := false }.note .retrying := persistImsi_of_imsi_none h.imsi_eq
    rw [himsi]
    exact ⟨_, _, persistName_of_cachedName_none h.cachedName_eq⟩
  · exact ⟨_, _, rfl⟩

/-! ### What becomes due -/

/-- A name that is shown is only replaced by another one. -/
theorem spn_recallName_ne_none (cfg : Config) (h : run.Coherent)
    (hshown : run.identity.spn ≠ none) : (run.recallName cfg).identity.spn ≠ none := by
  have hcoherent := h.recallName cfg
  have hrenamed := recallName_touches cfg run
  rcases cachedName_recallName cfg run with hsame | hnamed
  · rwa [hcoherent.spn_eq, hrenamed.cardName_eq, hsame, hrenamed.fallback_eq, ← h.spn_eq]
  · obtain ⟨name, hname⟩ := Option.ne_none_iff_exists'.1 hnamed
    rw [hcoherent.spn_of_cachedName hname]
    exact Option.some_ne_none name

/-- If no name is shown yet, recalling the card has a reason for each signal. -/
theorem candid_recallCard_of_unnamed {signal : Signal} (h : run.Coherent)
    (hspn : run.identity.spn = none) (modem : Modem) (iccid : String) :
    Candid signal run (run.recallCard cfg modem iccid) := by
  by_cases hsignal : signal = .spn
  · subst hsignal
    refine (candid_recallImsi modem iccid run).trans (candid_recallName _) fun hchange => ?_
    have hshown : (run.recallImsi cfg modem iccid).identity.spn ≠ none := hspn ▸ hchange
    show _ ≠ run.identity.spn
    rw [hspn]
    exact spn_recallName_ne_none cfg (h.recallImsi cfg modem iccid) hshown
  · exact candid_recallCard hsignal modem iccid run

/-- A card that is put in where none was known is recalled. -/
theorem observeIccid_of_vacant (cfg : Config) (hvacant : run.Vacant)
    (hiccid : known modem.iccid = some iccid) :
    run.observeIccid cfg modem =
      (({ run with identity.iccid := some iccid } : Run σ).queue .iccid).recallCard cfg modem
        iccid := by
  simp only [observeIccid]
  rw [hvacant.iccid_eq, hiccid, if_neg (Option.some_ne_none iccid).symm]

/-- The same signals become due as when the card is lost again. -/
theorem due_observeIccid_of_vacant (cfg : Config) (h : run.Coherent) (hvacant : run.Vacant)
    (hdue : run.due = ∅) (hiccid : known modem.iccid = some iccid) :
    (run.observeIccid cfg modem).due =
      dueOnLoss (run.observeIccid cfg modem).identity ((∅ : SignalSet).insert .iccid) := by
  have hne : iccid ≠ "" := (known_eq_some_iff.1 hiccid).2
  rw [observeIccid_of_vacant cfg hvacant hiccid]
  generalize hbegun : ({ run with identity.iccid := some iccid } : Run σ).queue .iccid = begun
  have hcoherent : begun.Coherent := by
    rw [← hbegun]
    exact { h with iccid_ne := fun h' => hne (Option.some.inj h') }
  have hpart {signal : Signal} (hother : signal ≠ .iccid) : begun.identity.part signal = none := by
    rw [← hbegun]
    cases signal with
    | iccid => exact absurd rfl hother
    | imsi => exact hvacant.part_eq h .imsi
    | spn => exact hvacant.part_eq h .spn
  have hnew (signal : Signal) : signal ∈ begun.due ↔ signal = .iccid := by
    rw [← hbegun, queue, SignalSet.mem_insert, hdue]
    exact or_iff_left (SignalSet.not_mem_empty signal)
  have hprogress : Progress cfg none begun (begun.recallCard cfg modem iccid) :=
    progress_recallCard modem hne begun
  have hname : Signal.spn ≠ .iccid := Signal.noConfusion
  refine SignalSet.eq_of_mem_iff fun signal => ?_
  have hcandid : Candid signal begun (begun.recallCard cfg modem iccid) :=
    candid_recallCard_of_unnamed hcoherent (hpart hname) modem iccid
  rw [mem_dueOnLoss, SignalSet.mem_insert]
  constructor
  · intro hmem
    by_cases hsignal : signal = .iccid
    · exact .inl (.inl hsignal)
    · have hchange := (hcandid hmem).resolve_left fun hold => hsignal ((hnew signal).1 hold)
      rw [hpart hsignal] at hchange
      exact .inr ⟨hsignal, hchange⟩
  · rintro ((hsignal | hnone) | ⟨hother, hknown⟩)
    · exact hprogress.mem_due (Option.some_ne_none _) (.inl ((hnew signal).2 hsignal))
    · exact absurd hnone (SignalSet.not_mem_empty signal)
    · refine hprogress.mem_due (Option.some_ne_none _) (.inr ?_)
      rwa [hpart hother]

/-! ### What is shown -/

/-- The fallback name is looked at exactly if a subscription is recalled. -/
theorem fallback_observeIccid_of_vacant (cfg : Config) (hvacant : run.Vacant)
    (hiccid : known modem.iccid = some iccid) :
    (run.observeIccid cfg modem).fallback =
      if (run.observeIccid cfg modem).identity.imsi = none then ∅ else modem.fallbackName := by
  rw [observeIccid_of_vacant cfg hvacant hiccid, recallCard, (recallName_touches cfg _).fallback_eq,
    (recallName_touches cfg _).imsi_eq]
  rcases recallImsi_cases cfg modem iccid
    (({ run with identity.iccid := some iccid } : Run σ).queue .iccid) with
    ⟨himsi, hfallback⟩ | ⟨⟨imsi, himsi⟩, hfallback⟩
  · rw [if_pos (himsi.trans hvacant.imsi_eq)]
    exact hfallback.trans hvacant.fallback_eq
  · rw [himsi, if_neg (Option.some_ne_none imsi)]
    exact hfallback

/-- Of a card of which nothing is known, what the cache tells is shown, and the codes of its home
network if it tells a subscription and no name. -/
theorem identity_observeIccid_of_vacant {run : Run VolatileStore} (cfg : Config)
    (havailable : run.store.available = true) (h : run.Coherent) (hvacant : run.Vacant)
    (hiccid : known modem.iccid = some iccid) :
    let imsi := known (run.store.cached cfg (.imsiOf iccid))
    (run.observeIccid cfg modem).identity =
      { path := run.identity.path, iccid := some iccid, imsi
        spn := imsi.bind fun imsi =>
          known (run.store.cached cfg (.nameOf imsi)) <|>
            known (some modem.fallbackName.text) } := by
  have hledger : (run.observeIccid cfg modem).ledger cfg = _ :=
    ledger_observeIccid havailable modem
  rw [Ledger.observeIccid_of_vacant hvacant.iccid_eq hvacant.imsi_eq hvacant.cardName_eq
    hvacant.cachedName_eq, hiccid] at hledger
  have hprogress : Progress cfg none run (run.observeIccid cfg modem) :=
    progress_observeIccid modem run
  have hshown := iccid_observeIccid cfg modem run
  have hfallback := fallback_observeIccid_of_vacant cfg hvacant hiccid
  have hcoherent := h.observeIccid cfg modem
  generalize run.observeIccid cfg modem = later at hledger hprogress hshown hfallback hcoherent ⊢
  have himsi : later.identity.imsi = known (run.store.cached cfg (.imsiOf iccid)) :=
    congrArg Ledger.imsi hledger
  have hcached : later.cachedName = Ledger.toldName (run.store.cached cfg)
      (known (run.store.cached cfg (.imsiOf iccid))) := congrArg Ledger.cachedName hledger
  have hcard : later.cardName = none := (congrArg Ledger.cardName hledger).trans hvacant.cardName_eq
  refine Identity.eq_of_part hprogress.path_eq fun signal => ?_
  cases signal with
  | iccid => exact hshown.trans hiccid
  | imsi => exact himsi
  | spn =>
    show later.identity.spn = _
    rw [hcoherent.spn_eq, hcard, hcached, hfallback, himsi, publicName?_eq]
    dsimp only [Identity.part]
    cases known (run.store.cached cfg (.imsiOf iccid)) with
    | none => rfl
    | some imsi =>
      rw [if_neg (Option.some_ne_none imsi)]
      show (none <|> (known (known _) <|> _)) = (_ <|> _)
      rw [known_eq_self (known_ne_empty _)]
      rfl

/-- What the cache tells about a card is read and not written. -/
theorem committed_observeIccid_of_vacant {run : Run VolatileStore} (cfg : Config)
    (havailable : run.store.available = true) (hvacant : run.Vacant) (modem : Modem) :
    (run.observeIccid cfg modem).store.committed = run.store.committed := by
  have hledger : (run.observeIccid cfg modem).ledger cfg = _ :=
    ledger_observeIccid havailable modem
  rw [Ledger.observeIccid_of_vacant hvacant.iccid_eq hvacant.imsi_eq hvacant.cardName_eq
    hvacant.cachedName_eq] at hledger
  exact congrArg Ledger.committed hledger

end Run

variable {σ : Type} [StringStore σ] {cfg : Config} {run : Run σ} {memory : VolatileStore}
  {modem : Modem} {iccid : String}

/-- **A card is recognized from the cache.** When a serial number is reported where no card was
known, the subscription is the one that the cache tells for it, if any, and the name is the one that
it tells for the subscription, else the codes of the home network, if there are any. Without a
subscription no name is shown. Nothing is written, whatever was pending, and the signals are those
of the parts that are known now. -/
theorem card_recognized_from_cache (h : Reachable cfg run) (hvacant : run.Vacant)
    (havailable : memory.available = true) (hshown : modem.iccid = some iccid) (hne : iccid ≠ "") :
    let after := (run.withStore memory).perform cfg modem (.report .iccid)
    let imsi := known (memory.cached cfg (.imsiOf iccid))
    let spn := imsi.bind fun imsi =>
      known (memory.cached cfg (.nameOf imsi)) <|> known (some modem.fallbackName.text)
    let news : List Signal := [.iccid] ++ (if imsi = none then [] else [.imsi]) ++
      (if spn = none then [] else [.spn])
    after.identity = { path := run.identity.path, iccid := some iccid, imsi, spn } ∧
      (∀ address, after.store.get? address = memory.get? address) ∧
      after.store.committed = memory.committed ∧
      after.sent = run.sent ++ news.map fun signal => ⟨signal, after.identity⟩ := by
  intro after imsi spn news
  have hiccid : known modem.iccid = some iccid := known_eq_some_iff.2 ⟨hshown, hne⟩
  obtain ⟨trail, writeFailed, hretry⟩ :=
    Run.retryWrites_of_vacant cfg (show (run.withStore memory).Vacant from { hvacant with })
  -- the modem is looked at as if nothing had been pending
  obtain ⟨seen, hseen⟩ : ∃ seen : Run VolatileStore,
    seen = { run.withStore memory with trail, writeFailed }.note (.iccidReported modem.iccid) :=
      ⟨_, rfl⟩
  have hafter : after = (seen.observeIccid cfg modem).announce := by
    rw [hseen, ← hretry]
    rfl
  obtain ⟨hcoherent, hvacant', hdue, hstore, hsent, hpath⟩ : seen.Coherent ∧ seen.Vacant ∧
      seen.due = ∅ ∧ seen.store = memory ∧ seen.sent = run.sent ∧
        seen.identity.path = run.identity.path := by
    rw [hseen]
    exact ⟨h.coherent.congr rfl rfl rfl rfl, { hvacant with }, h.due_eq_empty, rfl, rfl, rfl⟩
  have havailable' : seen.store.available = true := by rw [hstore]; exact havailable
  have hidentity := Run.identity_observeIccid_of_vacant cfg havailable' hcoherent hvacant' hiccid
  have hcommitted := Run.committed_observeIccid_of_vacant cfg havailable' hvacant' modem
  have hnews := Run.due_observeIccid_of_vacant cfg hcoherent hvacant' hdue hiccid
  have hprogress : Progress cfg none seen (seen.observeIccid cfg modem) :=
    Run.progress_observeIccid modem seen
  have hkept := (hprogress.uses.quiet havailable').2 hcommitted
  rw [hstore] at hidentity hcommitted hkept
  rw [hpath] at hidentity
  rw [show after = _ from hafter]
  refine ⟨hidentity, hkept, hcommitted, ?_⟩
  show (seen.observeIccid cfg modem).sent ++ (seen.observeIccid cfg modem).due.toList.map
      (fun signal => ⟨signal, (seen.observeIccid cfg modem).identity⟩) =
    run.sent ++ news.map fun signal => ⟨signal, (seen.observeIccid cfg modem).identity⟩
  rw [hnews, Run.toList_dueOnLoss, hprogress.sent_eq, hsent, hidentity]

/-- A card at home is gone while the memory cannot be reached, so that its subscription and its name
stay to be saved. The next card is one that the memory knows, and nothing is written for it. -/
theorem known_card_put_in_after_failures :
    let gone : Modem := { path := "/ril_0" }
    let modem : Modem := { gone with iccid := some "8902" }
    let run := (Run.start {} Modem.atHome
      ({ available := false } : VolatileStore)).perform {} gone (.report .iccid)
    let after := (run.withStore VolatileStore.knowing8902).perform {} modem (.report .iccid)
    run.hasPendingWrites = true ∧ run.writeFailed = true ∧ after.store.committed = 0 ∧
      after.identity =
        { path := "/ril_0", iccid := some "8902", imsi := some "00102", spn := some "New" } := by
  intro gone modem run after
  have hreachable : Reachable {} run := .perform _ _ (.start _ _)
  have hvacant : run.Vacant := by constructor <;> decide +kernel
  obtain ⟨hidentity, -, hcommitted, -⟩ := card_recognized_from_cache hreachable hvacant
    (show VolatileStore.knowing8902.available = true by decide +kernel)
    (show modem.iccid = some "8902" from rfl) (by decide)
  refine ⟨by decide +kernel, by decide +kernel, hcommitted.trans (by decide +kernel), ?_⟩
  refine hidentity.trans ?_
  decide +kernel

end SimIdentity
