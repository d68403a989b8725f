import SimIdentity.Proofs.Bystanders
import SimIdentity.Proofs.Delivery
import SimIdentity.Proofs.Order

/-!
# Another subscription

The card reports another subscription than the one that was tracked. It is saved for the card at
once, and the name is settled between three sources: the card, the cache, and what was the name of
the old subscription. If the cache tells a name for the new one, the last of them is out. The card's
own name then takes the place of the cached one, and otherwise it is the other way round
(`Ledger.names_observeImsi`).

Before that, writes that failed are tried again, and this is for the old subscription still. It is
the only one besides the new one whose name the cache may hold differently afterwards
(`Ledger.Retried`).

## What is proved

`reported_subscription_adopted`, over a memory that can be reached, for runs that came about over any
stores. So whatever is pending, with whatever names, the tracker and the cache agree afterwards if
the cache had a name to tell.
-/

namespace SimIdentity

namespace Ledger

variable {ledger retried : Ledger} {modem : Modem} {iccid imsi told : String}

/-! ### Trying again -/

theorem nameOf_persistImsi (other : String) (ledger : Ledger) :
    ledger.persistImsi.entries (.nameOf other) = ledger.entries (.nameOf other) := by
  simp only [persistImsi]
  split
  case h_1 iccid imsi _ _ _ =>
    have hother : Cache.Entry.nameOf other ≠ .imsiOf iccid := Cache.Entry.noConfusion
    exact Function.update_of_ne hother (some imsi) ledger.entries
  case h_2 => rfl

/-- To save the name changes what the cache tells for the subscription that is tracked, if at all. -/
theorem nameOf_persistName (other : String) (ledger : Ledger) :
    ledger.persistName.entries (.nameOf other) = ledger.entries (.nameOf other) ∨
      ledger.nameDirty = true ∧ ledger.imsi = some other ∧
        ledger.persistName.entries (.nameOf other) = ledger.cachedName := by
  simp only [persistName]
  split
  case h_1 imsi name hdirty himsi hname =>
    by_cases hother : imsi = other
    · subst hother
      refine .inr ⟨hdirty, (known_eq_some_iff.1 himsi).1, ?_⟩
      exact (Function.update_self _ _ _).trans (known_eq_some_iff.1 hname).1.symm
    · exact .inl (Function.update_of_ne (fun h => hother (Cache.Entry.nameOf.inj h).symm) _ _)
  case h_2 => exact .inl rfl

/-- What was pending was tried again, if anything had failed. -/
structure Retried (failed : Bool) (ledger retried : Ledger) : Prop where
  /-- The card is the same. -/
  iccid_eq : retried.iccid = ledger.iccid
  /-- So is the subscription. -/
  imsi_eq : retried.imsi = ledger.imsi
  /-- So is the name of the card. -/
  cardName_eq : retried.cardName = ledger.cardName
  /-- So is the name for the cache. -/
  cachedName_eq : retried.cachedName = ledger.cachedName
  /-- The only name that may have been saved is that of the subscription, if it was dirty. -/
  nameOf (other : String) : retried.entries (.nameOf other) = ledger.entries (.nameOf other) ∨
    failed = true ∧ ledger.nameDirty = true ∧ ledger.imsi = some other ∧
      retried.entries (.nameOf other) = ledger.cachedName

/-- The names of other subscriptions are left alone. -/
theorem Retried.nameOf_eq {failed : Bool} (h : Retried failed ledger retried)
    (hother : ledger.imsi ≠ some imsi) :
    retried.entries (.nameOf imsi) = ledger.entries (.nameOf imsi) :=
  (h.nameOf imsi).resolve_right fun hsaved => hother hsaved.2.2.1

theorem retried_of_not_failed (ledger : Ledger) : Retried false ledger ledger :=
  ⟨rfl, rfl, rfl, rfl, fun _ => .inl rfl⟩

theorem retried_of_failed (ledger : Ledger) :
    Retried true ledger ledger.persistImsi.persistName := by
  have hnameOf (other : String) := nameOf_persistName other ledger.persistImsi
  simp only [nameOf_persistImsi] at hnameOf
  have hnamed := (Renames.refl ledger.persistImsi).persistName
  obtain ⟨_, _, _, hpersist⟩ := persistImsi_touches ledger
  rw [hpersist] at hnameOf hnamed ⊢
  exact ⟨hnamed.iccid_eq, hnamed.imsi_eq, cardName_persistName _, cachedName_persistName _,
    fun other => (hnameOf other).imp_right fun hsaved => ⟨rfl, hsaved⟩⟩

/-! ### Taking over the subscription -/

/-- Another subscription is saved for the card at once. -/
theorem saved_observeImsi (hiccid : known ledger.iccid = some iccid)
    (hreported : known modem.imsi = some imsi) (hnew : ledger.imsi ≠ some imsi) :
    (ledger.observeImsi modem).imsiDirty = false ∧
      (ledger.observeImsi modem).entries (.imsiOf iccid) = some imsi := by
  constructor
  · have hwaits := (waits_observeImsi_of_not_echo fun hecho => hnew (hecho imsi hreported)).1
    have hshown : known (ledger.observeImsi modem).imsi ≠ none := by
      rw [imsi_observeImsi ledger hreported, known_some (known_eq_some_iff.1 hreported).2]
      exact Option.some_ne_none imsi
    refine Bool.eq_false_iff.2 fun hdirty => ?_
    have hnone := (hwaits hshown).1 hdirty
    rw [iccid_observeImsi, hiccid] at hnone
    exact Option.some_ne_none iccid hnone
  · rw [entries_observeImsi hiccid hreported, if_neg hnew]

/-- If the cache tells a name for the new subscription, it tells the name that is known afterwards.
That is the card's own name if there is one, and else the name that it told. -/
theorem names_observeImsi (hcard_ne : ledger.cardName ≠ some "")
    (hcard : ∀ name, known ledger.cardName = some name → ledger.cachedName = some name)
    (hreported : known modem.imsi = some imsi) (hnew : ledger.imsi ≠ some imsi)
    (htold : known (ledger.entries (.nameOf imsi)) = some told) :
    (ledger.observeImsi modem).cachedName = (ledger.cardName <|> some told) ∧
      (ledger.observeImsi modem).entries (.nameOf imsi) = (ledger.cardName <|> some told) := by
  have hne : imsi ≠ "" := (known_eq_some_iff.1 hreported).2
  rcases observeImsi_cases modem ledger with
    ⟨hecho, -⟩ | ⟨reported, moved, hreported', -, hmoved, hobserve⟩
  · exact absurd (hecho imsi hreported) hnew
  obtain rfl : imsi = reported := Option.some.inj (hreported.symm.trans hreported')
  have hsettled : moved.recallName.persistName.Agrees := by
    have hrecall := (hmoved.agreesOnCard hcard).recallName
    exact hrecall.toAgreesOnCard.persistName (.inl hrecall.name)
  have hcardName : moved.recallName.persistName.cardName = ledger.cardName := by
    rw [cardName_persistName, cardName_recallName, hmoved.cardName_eq]
  have himsi : known moved.recallName.persistName.imsi = some imsi := by
    rw [NameSteps.refl.recallName.persistName.renames.imsi_eq, hmoved.imsi_eq, known_some hne]
  -- the cache tells the name that is known, so it is left to find out which one that is
  have hechoes : moved.recallName.persistName.entries (.nameOf imsi) =
      moved.recallName.persistName.cachedName := by
    have hstill : known (moved.entries (.nameOf imsi)) ≠ none := by
      rw [hmoved.nameOf, htold]
      exact Option.some_ne_none told
    obtain ⟨text, htext⟩ :=
      Option.ne_none_iff_exists'.1 (NameSteps.refl.recallName.persistName.tells hstill)
    rw [hsettled.name imsi text himsi htext]
    exact (known_eq_some_iff.1 htext).1
  rw [hobserve, hechoes, and_self]
  cases hname : ledger.cardName with
  | some name =>
    refine hsettled.cardName name ?_
    rw [hcardName, known_eq_self hcard_ne, hname]
  | none =>
    rw [hmoved.settle_of_told hne hname htold]
    rfl

end Ledger

theorem Run.retried_retryWrites {cfg : Config} {run : Run VolatileStore}
    (h : run.store.available = true) :
    Ledger.Retried run.writeFailed (run.ledger cfg) ((run.retryWrites cfg).ledger cfg) := by
  rw [ledger_retryWrites h]
  cases run.writeFailed with
  | true => exact Ledger.retried_of_failed _
  | false => exact Ledger.retried_of_not_failed _

variable {σ : Type} [StringStore σ] {cfg : Config} {run : Run σ} {memory : VolatileStore}
  {modem : Modem} {iccid imsi : String}

/-- **A reported subscription is adopted.** When another subscription is reported for a card whose
serial number is known, it is tracked, announced, and saved for the card, which is the same as before
and has the same name. If the cache told a name for the subscription, then the name that it tells
now, the one that the tracker keeps, and the one shown are the same: the card's own name if there is
one, and else the name that was told. The names of other subscriptions stay in the cache as they are,
but for the one tracked before, whose name may have been waiting to be tried again. -/
theorem reported_subscription_adopted (h : Reachable cfg run)
    (htracked : run.identity.iccid = some iccid) (havailable : memory.available = true)
    (hreported : modem.imsi = some imsi) (hne : imsi ≠ "")
    (hnew : run.identity.imsi ≠ some imsi) :
    let after := (run.withStore memory).perform cfg modem (.report .imsi)
    (after.identity.imsi = some imsi ∧ after.imsiDirty = false ∧
      after.store.cached cfg (.imsiOf iccid) = some imsi) ∧
    (after.identity.iccid = some iccid ∧ after.cardName = run.cardName) ∧
    (∃ news, after.sent = run.sent ++ news ∧ ⟨.imsi, after.identity⟩ ∈ news) ∧
    (∀ told, known (memory.cached cfg (.nameOf imsi)) = some told →
      let name := run.cardName <|> some told
      after.store.cached cfg (.nameOf imsi) = name ∧ after.cachedName = name ∧
        after.identity.spn = name) ∧
    ∀ other, other ≠ imsi →
      after.store.cached cfg (.nameOf other) = memory.cached cfg (.nameOf other) ∨
        run.writeFailed = true ∧ run.nameDirty = true ∧ run.identity.imsi = some other ∧
          after.store.cached cfg (.nameOf other) = run.cachedName := by
  intro after
  have hknown : known modem.imsi = some imsi := known_eq_some_iff.2 ⟨hreported, hne⟩
  have hcoherent : (run.withStore memory).Coherent := h.coherent.congr rfl rfl rfl rfl
  have hafter : after.Coherent := hcoherent.perform cfg modem (.report .imsi)
  obtain ⟨hiccid, himsi, -⟩ := Run.handle_imsi cfg modem (run.withStore memory)
  replace hiccid : after.identity.iccid = some iccid := hiccid.trans htracked
  replace himsi : after.identity.imsi = some imsi := himsi.trans (by rw [hknown]; rfl)
  -- the rest is about the ledger, as it is after what was pending has been tried again
  have hretry : Progress cfg none (run.withStore memory) ((run.withStore memory).retryWrites cfg) :=
    Run.progress_retryWrites _
  have hretried : Ledger.Retried (run.withStore memory).writeFailed
      ((run.withStore memory).ledger cfg) (((run.withStore memory).retryWrites cfg).ledger cfg) :=
    Run.retried_retryWrites havailable
  have hledger : after.ledger cfg =
      (((run.withStore memory).retryWrites cfg).ledger cfg).observeImsi modem :=
    Run.ledger_observeImsi (hretry.uses.available havailable) modem
  generalize ((run.withStore memory).retryWrites cfg).ledger cfg = ledger at hretried hledger
  have hold : ledger.imsi ≠ some imsi := by rw [hretried.imsi_eq]; exact hnew
  have hcardName : after.cardName = run.cardName := (congrArg Ledger.cardName hledger).trans
    ((Ledger.cardName_observeImsi modem ledger).trans hretried.cardName_eq)
  have hsaved : after.imsiDirty = false ∧ after.store.cached cfg (.imsiOf iccid) = some imsi := by
    have htracked' : known ledger.iccid = some iccid := by
      rw [hretried.iccid_eq, ← htracked]
      exact known_eq_self h.coherent.iccid_ne
    have hledger' := Ledger.saved_observeImsi htracked' hknown hold
    rw [← hledger] at hledger'
    exact hledger'
  refine ⟨⟨himsi, hsaved⟩, ⟨hiccid, hcardName⟩, ?_, ?_, ?_⟩
  · obtain ⟨news, hnews⟩ := perform_delivers cfg modem (.report .imsi) (run.withStore memory)
    have hpart : after.identity.part .imsi ≠ (run.withStore memory).identity.part .imsi :=
      fun hsame => hnew (hsame.symm.trans himsi)
    exact ⟨news, hnews.sent_eq, hnews.mem_of_part hpart⟩
  · intro told htold name
    have htold' : known (ledger.entries (.nameOf imsi)) = some told := by
      rw [hretried.nameOf_eq hnew]
      exact htold
    have hcard_ne : ledger.cardName ≠ some "" := by
      rw [hretried.cardName_eq]
      exact h.coherent.cardName_ne
    have hcached_eq (text : String) (htext : known ledger.cardName = some text) :
        ledger.cachedName = some text := by
      rw [hretried.cardName_eq] at htext
      rw [hretried.cachedName_eq]
      exact h.coherent.cachedName_of_cardName (known_eq_some_iff.1 htext).1
    obtain ⟨hcached, hentry⟩ :=
      Ledger.names_observeImsi hcard_ne hcached_eq hknown hold htold'
    rw [← hledger, hretried.cardName_eq] at hcached hentry
    refine ⟨hentry, hcached, ?_⟩
    obtain ⟨text, htext⟩ : ∃ text, (run.cardName <|> some told) = some text := by
      cases run.cardName with
      | some text => exact ⟨text, rfl⟩
      | none => exact ⟨told, rfl⟩
    exact (hafter.spn_of_cachedName (hcached.trans htext)).trans htext.symm
  · intro other hother
    have hsame := Ledger.nameOf_observeImsi hknown hother ledger
    rw [← hledger] at hsame
    rcases hretried.nameOf other with hkept | ⟨hfailed, hdirty, htracked', hsaved⟩
    · exact .inl (hsame.trans hkept)
    · exact .inr ⟨hfailed, hdirty, htracked', hsame.trans hsaved⟩

/-- The card at home reports another subscription, for which the memory knows some name, after nothing
could be saved for the first one. The card's own name takes the place of that name, and it is saved
for the first subscription at last. -/
theorem named_card_tells_another_subscription :
    let memory : VolatileStore :=
      (∅ : VolatileStore).insert (Cache.Entry.address {} (.nameOf "00202")) "Stored"
    let modem : Modem := { Modem.atHome with imsi := some "00202" }
    let run := Run.start {} Modem.atHome ({ available := false } : VolatileStore)
    let after := (run.withStore memory).perform {} modem (.report .imsi)
    run.identity.imsi = some "00101" ∧ after.store.cached {} (.imsiOf "8901") = some "00202" ∧
      after.store.cached {} (.nameOf "00202") = some "Card" ∧ after.identity.spn = some "Card" ∧
      after.store.cached {} (.nameOf "00101") = some "Card" := by
  intro memory modem run after
  have hreachable : Reachable {} run := .start _ _
  obtain ⟨⟨-, -, hsaved⟩, -, -, hnames, -⟩ := reported_subscription_adopted hreachable
    (show run.identity.iccid = some "8901" by decide +kernel)
    (show memory.available = true by decide +kernel) (show modem.imsi = some "00202" from rfl)
    (by decide) (show run.identity.imsi ≠ some "00202" by decide +kernel)
  have hcard : run.cardName = some "Card" := by decide +kernel
  obtain ⟨hentry, -, hspn⟩ := hnames "Stored" (by decide +kernel)
  rw [hcard] at hentry hspn
  exact ⟨by decide +kernel, hsaved, hentry, hspn, by decide +kernel⟩

end SimIdentity
