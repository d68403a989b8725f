import SimIdentity.Proofs.Agreement
import SimIdentity.Proofs.Loss
import SimIdentity.Proofs.Resync

/-!
# The name of the home network

A card without a name of its own is shown under the name that its home network's operator gives it,
once that network serves it. The modem reports about the network in two ways. A network that comes
or goes is always looked at. A new standing with it counts only while a network is attached, and
that is not a matter of what the modem shows now: it is remembered from when the network was read
last (`Modem.lastRead`).

## What is proved

`operator_named_iff`: in every run it is known whether a network was attached when it was read last,
and either kind of report has the operator's name taken over exactly under the conditions of
`Knowledge.TakesOperator`. Otherwise nobody hears of it, and the stores, which may be such that keep a
record of the accesses, end as trying failed writes again leaves them.
-/

namespace SimIdentity

/-- Whether it is read in the call if a network is attached. -/
def Call.readsNetwork : Call → Bool
  | .report .network => true
  | .report _ => false
  | .resync => true

/-- What the modem showed when the network was read last, in the calls or at the start. -/
def Modem.lastRead (first : Modem) (calls : List (Modem × Call)) : Modem :=
  ((calls.filter (·.2.readsNetwork)).map (·.1)).getLastD first

theorem Modem.lastRead_cons (first modem : Modem) (call : Call) (calls : List (Modem × Call)) :
    first.lastRead ((modem, call) :: calls) =
      (if call.readsNetwork then modem else first).lastRead calls := by
  simp only [lastRead, List.filter_cons]
  split
  · rw [List.map_cons, List.getLastD_cons]
  · rfl

/-- On this report the operator's name is taken over. -/
structure Knowledge.TakesOperator (knowledge : Knowledge) (modem : Modem) (change : Change)
    (name : String) : Prop where
  /-- A new standing counts only while a network is attached. -/
  attached_eq : change = .networkStatus → knowledge.attached = true
  /-- The home network of the card is the serving one, and this is its name. -/
  served : modem.ServedAtHome name
  /-- The card has no name of its own. -/
  cardName_eq : knowledge.cardName = none

namespace Run

variable {σ : Type} [StringStore σ] {cfg : Config} {modem : Modem} {change : Change}
  {name : String} {run : Run σ}

/-! ### Whether a network is attached -/

theorem attached_retryWrites (cfg : Config) (run : Run σ) :
    (run.retryWrites cfg).attached = run.attached := by
  obtain ⟨_, _, _, _, _, hretry⟩ := retryWrites_touches cfg run
  rw [hretry]

theorem attached_observeIccid (cfg : Config) (modem : Modem) (run : Run σ) :
    (run.observeIccid cfg modem).attached = run.attached := by
  simp only [observeIccid]
  split
  · rfl
  · split
    case h_1 iccid hiccid =>
      obtain ⟨_, _, _, _, _, _, _, _, _, _, hrecall⟩ := recallCard_touches cfg modem iccid
        ({ run with identity.iccid := some iccid }.queue .iccid)
      rw [hiccid, hrecall]
      rfl
    case h_2 hiccid =>
      obtain ⟨_, _, hforget⟩ := forgetCard_touches
        ({ run with identity.iccid := none }.queue .iccid)
      rw [hiccid, hforget]
      rfl

theorem attached_observeAll (cfg : Config) (modem : Modem) (run : Run σ) :
    (run.observeAll cfg modem).attached = modem.network.isSome :=
  (adoptHomeOperator_touches cfg modem _).attached_eq.trans (attached_observe_names cfg modem _)

/-- A call either reads whether a network is attached, or leaves it at what was known. -/
theorem attached_perform (cfg : Config) (modem : Modem) (call : Call) (run : Run σ) :
    (run.perform cfg modem call).attached =
      if call.readsNetwork then modem.network.isSome else run.attached := by
  have hretried := attached_retryWrites cfg run
  cases call with
  | resync => exact attached_observeAll cfg modem _
  | report change =>
    cases change with
    | iccid => exact (attached_observeIccid cfg modem _).trans hretried
    | imsi =>
      obtain ⟨_, himsi⟩ := observeImsi_touches cfg modem (run.retryWrites cfg)
      exact himsi.attached_eq.trans hretried
    | spn => exact (observeCardName_touches cfg modem _).attached_eq.trans hretried
    | network => exact (observeNetwork_touches cfg modem _).attached_eq
    | networkStatus =>
      exact (observe_networkStatus_touches cfg modem _).attached_eq.trans hretried

theorem attached_start (cfg : Config) (modem : Modem) (store : σ) :
    (start cfg modem store).attached = modem.network.isSome := by
  obtain ⟨_, hstart⟩ := start_touches cfg modem store
  rw [hstart]
  exact attached_observeAll cfg modem _

/-- The last call that reads the network decides, or the run that the calls began with. -/
theorem attached_performAll (cfg : Config) (first : Modem) (calls : List (Modem × Call))
    (run : Run σ) (h : run.attached = first.network.isSome) :
    (run.performAll cfg calls).attached = (first.lastRead calls).network.isSome := by
  induction calls generalizing first run with
  | nil => exact h
  | cons head rest ih =>
    obtain ⟨modem, call⟩ := head
    rw [performAll_cons, Modem.lastRead_cons]
    refine ih _ _ ?_
    rw [attached_perform, h]
    split
    · rfl
    · rfl

/-! ### Taking over the operator's name -/

/-- Where the home network serves a card without a name of its own, the operator's name is shown. -/
theorem adoptHomeOperator_of_taken (h : run.Coherent) (hserved : modem.ServedAtHome name)
    (hcard : run.cardName = none) :
    (run.adoptHomeOperator cfg modem).cachedName = some name ∧
      (run.adoptHomeOperator cfg modem).identity = { run.identity with spn := some name } := by
  have hcoherent := h.adoptHomeOperator cfg modem
  have htaken : run.adoptHomeOperator cfg modem =
      (run.note (.homeNetwork name)).adoptName cfg name := by
    unfold adoptHomeOperator
    rw [Modem.homeOperator?_eq_some_iff.2 hserved]
    exact if_pos (by rw [note, hcard, known_none])
  obtain ⟨_, _, _, spn, _, _, hadopt⟩ := adoptName_touches cfg name (run.note (.homeNetwork name))
  rw [htaken, hadopt] at hcoherent ⊢
  have hspn : spn = some name := hcoherent.spn_of_cachedName rfl
  rw [hspn]
  exact ⟨rfl, rfl⟩

/-- Otherwise it is at most noted in the trail. -/
theorem adoptHomeOperator_of_untaken (cfg : Config) (h : run.Coherent)
    (huntaken : ∀ name, modem.ServedAtHome name → run.cardName ≠ none) :
    ∃ trail, run.adoptHomeOperator cfg modem = { run with trail } := by
  unfold adoptHomeOperator
  split
  · exact ⟨_, rfl⟩
  case h_2 name hname =>
    have hcard := huntaken name (Modem.homeOperator?_eq_some_iff.1 hname)
    refine ⟨_, if_neg ?_⟩
    rwa [note, known_eq_self h.cardName_ne]

/-- A report about the network that has a name taken over does no more than that. -/
theorem observe_of_taken (cfg : Config) (h : run.Coherent)
    (hchange : change = .network ∨ change = .networkStatus)
    (htaken : run.TakesOperator modem change name) :
    (run.observe cfg modem change).cachedName = some name ∧
      (run.observe cfg modem change).identity = { run.identity with spn := some name } := by
  obtain ⟨hattached, hserved, hcard⟩ := htaken
  rcases hchange with rfl | rfl
  · obtain ⟨trail, hobserve⟩ := observeNetwork_eq_adoptHomeOperator cfg modem run
    rw [observe, hobserve]
    have hread : ({ run with trail, attached := modem.network.isSome } : Run σ).Coherent :=
      h.congr rfl rfl rfl rfl
    exact adoptHomeOperator_of_taken hread hserved hcard
  · simp only [observe]
    rw [if_pos (hattached rfl)]
    exact adoptHomeOperator_of_taken h hserved hcard

/-- Another one only tells whether a network is attached. -/
theorem observe_of_untaken (cfg : Config) (h : run.Coherent)
    (hchange : change = .network ∨ change = .networkStatus)
    (huntaken : ∀ name, ¬ run.TakesOperator modem change name) :
    ∃ trail attached, run.observe cfg modem change = { run with trail, attached } := by
  rcases hchange with rfl | rfl
  · obtain ⟨trail, hobserve⟩ := observeNetwork_eq_adoptHomeOperator cfg modem run
    have hread : ({ run with trail, attached := modem.network.isSome } : Run σ).Coherent :=
      h.congr rfl rfl rfl rfl
    obtain ⟨trail', hadopt⟩ := adoptHomeOperator_of_untaken cfg hread
      fun name hserved hcard => huntaken name ⟨Change.noConfusion, hserved, hcard⟩
    exact ⟨trail', _, hobserve.trans hadopt⟩
  · simp only [observe]
    split
    case isTrue hattached =>
      obtain ⟨trail, hadopt⟩ := adoptHomeOperator_of_untaken cfg h
        fun name hserved hcard => huntaken name ⟨fun _ => hattached, hserved, hcard⟩
      exact ⟨trail, _, hadopt⟩
    case isFalse => exact ⟨_, _, rfl⟩

end Run

variable {σ : Type} [StringStore σ]

/-- **When the home network names the card.** In every run, over any stores, it is known whether the
modem showed a network when its network was read last. A report about the network, or about the
standing with it while one is attached, has the operator's name cached and shown if the network that
serves is the card's home network and the card has no name of its own. In all other cases nothing
that is known of the card changes, nothing is sent, and the stores are used to try failed writes
again and for nothing else. -/
theorem operator_named_iff (cfg : Config) (first : Modem) (store : σ)
    (calls : List (Modem × Call)) :
    let run := (Run.start cfg first store).performAll cfg calls
    run.attached = (first.lastRead calls).network.isSome ∧
      ∀ modem change, change = .network ∨ change = .networkStatus →
        let after := run.perform cfg modem (.report change)
        (∀ name, run.TakesOperator modem change name →
          after.cachedName = some name ∧ after.identity = { run.identity with spn := some name }) ∧
        ((∀ name, ¬ run.TakesOperator modem change name) →
          after.identity = run.identity ∧ after.cardName = run.cardName ∧
            after.cachedName = run.cachedName ∧ after.fallback = run.fallback ∧
            after.sent = run.sent ∧
            after.store =
              if run.writeFailed then (Cache.saveAll cfg run.owed run.store).2 else run.store) := by
  intro run
  have hreachable : Reachable cfg run := (Reachable.start first store).performAll calls
  refine ⟨Run.attached_performAll cfg first calls _ (Run.attached_start cfg first store), ?_⟩
  intro modem change hchange after
  have hcoherent : (run.retryWrites cfg).Coherent := hreachable.coherent.retryWrites cfg
  have hstore := Run.store_retryWrites cfg run
  obtain ⟨_, _, _, _, _, hretry⟩ := Run.retryWrites_touches cfg run
  have hsame (name : String) : (run.retryWrites cfg).TakesOperator modem change name ↔
      run.TakesOperator modem change name := by
    rw [hretry]
    exact ⟨fun h => ⟨h.1, h.2, h.3⟩, fun h => ⟨h.1, h.2, h.3⟩⟩
  constructor
  · intro name htaken
    obtain ⟨hcached, hidentity⟩ :=
      Run.observe_of_taken cfg hcoherent hchange ((hsame name).2 htaken)
    refine ⟨hcached, hidentity.trans ?_⟩
    rw [hretry]
  · intro huntaken
    obtain ⟨trail, attached, hobserve⟩ := Run.observe_of_untaken cfg hcoherent hchange
      fun name htaken => huntaken name ((hsame name).1 htaken)
    have hafter : after = Run.announce { run.retryWrites cfg with trail, attached } :=
      congrArg Run.announce hobserve
    rw [hretry] at hafter hstore
    rw [hafter]
    refine ⟨rfl, rfl, rfl, rfl, ?_, hstore⟩
    show run.sent ++ run.due.toList.map _ = run.sent
    rw [hreachable.due_eq_empty]
    exact List.append_nil _

/-- A modem that looks for a network finds the home network of its card. A new standing does not
count before it is known that a network is attached, and has the operator's name shown afterwards. -/
theorem home_network_found :
    let found : Modem := { Modem.atHome with spn := none }
    let first : Modem := { found with network := none }
    let searching : Modem := { found with network := some { status := .searching } }
    let early := (Run.start {} first (∅ : VolatileStore)).performAll {} []
    let late := (Run.start {} first (∅ : VolatileStore)).performAll {}
      [(searching, .report .network)]
    early.attached = false ∧ late.attached = true ∧
      (early.perform {} found (.report .networkStatus)).identity.spn = some "00101" ∧
      (late.perform {} found (.report .networkStatus)).identity.spn = some "Home" := by
  intro found first searching early late
  have hserved : found.ServedAtHome "Home" :=
    .intro rfl rfl (.inl rfl) (by decide) (by decide) (by decide)
  obtain ⟨hearly, hdetached⟩ := operator_named_iff {} first (∅ : VolatileStore) []
  obtain ⟨hlate, hattached⟩ :=
    operator_named_iff {} first (∅ : VolatileStore) [(searching, .report .network)]
  have hdetached := hdetached found .networkStatus (.inr rfl)
  have hattached := hattached found .networkStatus (.inr rfl)
  refine ⟨hearly, hlate, ?_, ?_⟩
  · have huntaken : ∀ name, ¬ early.TakesOperator found .networkStatus name := fun name htaken =>
      absurd (hearly.symm.trans (htaken.attached_eq rfl)) (by decide)
    rw [(hdetached.2 huntaken).1]
    decide +kernel
  · have htaken : late.TakesOperator found .networkStatus "Home" :=
      ⟨fun _ => hlate, hserved, by decide +kernel⟩
    rw [(hattached.1 "Home" htaken).2]

end SimIdentity
