import SimIdentity.Proofs.Coherence
import SimIdentity.Proofs.Failure
import SimIdentity.Store.Unreliable

/-!
# Reports of what is known already

A modem may report the same thing twice, and a mailbox may deliver a report long after everything
was read again. As long as the modem shows what it showed, such reports change nothing.

`Knowledge.Reflects` says in which respects the knowledge of a tracker agrees with what a modem
shows. It does not ask where the values came from: in between, the cache may have told others, or
may have failed to tell any. Reading everything once establishes it, whatever was known before
(`reflects_observeAll`). Where it holds, observing the modem again comes down to remarks
(`observe_of_reflects`), and what is left of a call is to try failed writes again
(`perform_of_reflects`).

The order in which everything is read matters. The operator's name is looked at twice, and only
the second time it is known whether the card has a name of its own.
-/

namespace SimIdentity

/-- What is known of the card agrees with what the modem shows, where the modem shows something. -/
structure Knowledge.Reflects (knowledge : Knowledge) (modem : Modem) : Prop where
  /-- The serial number is the one shown, or none. -/
  iccid_eq : knowledge.identity.iccid = known modem.iccid
  /-- The subscription is the one shown, if there is one. -/
  imsi_eq : ∀ imsi, known modem.imsi = some imsi → knowledge.identity.imsi = some imsi
  /-- The name on the card is the one shown, if there is one. -/
  cardName_eq : ∀ name, known modem.spn = some name → knowledge.cardName = some name
  /-- At home, a card without a name of its own has the operator's. -/
  cachedName_eq : ∀ name, modem.homeOperator? = some name → known knowledge.cardName = none →
    knowledge.cachedName = some name
  /-- The fallback name is the one that the card's codes give. -/
  fallback_eq : knowledge.fallback = modem.fallbackName
  /-- It is known whether a network is attached. -/
  attached_eq : knowledge.attached = modem.network.isSome

variable {σ : Type} [StringStore σ] {cfg : Config} {modem : Modem} {run : Run σ}

namespace Run

/-! ### Reading everything -/

/-- At home, a card without a name of its own gets the operator's. -/
theorem cachedName_adoptHomeOperator {name : String} (hname : modem.homeOperator? = some name)
    (hcard : known run.cardName = none) :
    (run.adoptHomeOperator cfg modem).cachedName = some name := by
  unfold adoptHomeOperator
  rw [hname]
  dsimp only
  rw [if_pos (show known (run.note (.homeNetwork name)).cardName = none from hcard)]
  obtain ⟨_, _, _, _, _, _, hadopt⟩ := adoptName_touches cfg name (run.note (.homeNetwork name))
  rw [hadopt]

/-- After everything was read, the knowledge of a tracker reflects the modem. -/
theorem reflects_observeAll (cfg : Config) (modem : Modem) (run : Run σ) :
    (run.observeAll cfg modem).Reflects modem := by
  have hiccid := iccid_observeIccid cfg modem run
  simp only [observeAll]
  -- what a step has established, the steps after it leave alone
  generalize run.observeIccid cfg modem = first at hiccid ⊢
  have hnetwork := observeNetwork_touches cfg modem first
  generalize first.observeNetwork cfg modem = second at hnetwork ⊢
  obtain ⟨imsiDirty, himsi⟩ := observeImsi_touches cfg modem second
  generalize second.observeImsi cfg modem = third at himsi ⊢
  have hcard := observeCardName_touches cfg modem third
  generalize third.observeCardName cfg modem = fourth at hcard ⊢
  have hlast := adoptHomeOperator_touches cfg modem fourth
  refine ⟨?_, fun imsi hshown => ?_, fun name hshown => ?_, fun name hname hnone => ?_, ?_, ?_⟩
  · rw [hlast.iccid_eq, hcard.iccid_eq, himsi.iccid_eq, hnetwork.iccid_eq]
    exact hiccid
  · rw [hlast.imsi_eq, hcard.imsi_eq, himsi.imsi_eq, hshown]
    rfl
  · rw [hlast.cardName_eq, hcard.cardName_eq, hshown]
    rfl
  · rw [hlast.cardName_eq] at hnone
    exact cachedName_adoptHomeOperator hname hnone
  · rw [hlast.fallback_eq, hcard.fallback_eq, himsi.fallback_eq]
  · rw [hlast.attached_eq, hcard.attached_eq, himsi.attached_eq, hnetwork.attached_eq]

/-! ### Reading again -/

section Reflects

variable (h : run.Reflects modem)
include h

theorem observeIccid_of_reflects : run.observeIccid cfg modem = run := by
  simp only [observeIccid]
  exact if_pos h.iccid_eq

theorem observeImsi_of_reflects : run.observeImsi cfg modem = run := by
  have hfallback : run.refreshFallback modem = run := if_pos h.fallback_eq
  simp only [observeImsi]
  cases hshown : known modem.imsi with
  | none => exact hfallback
  | some imsi =>
    have hadopt : run.adoptImsi cfg imsi = run := if_pos (h.imsi_eq imsi hshown)
    dsimp only
    rw [hadopt]
    exact hfallback

theorem observeCardName_of_reflects : run.observeCardName cfg modem = run := by
  simp only [observeCardName]
  cases hshown : known modem.spn with
  | none => rfl
  | some name => exact if_pos (h.cardName_eq name hshown)

/-- It is remarked that the network is the home network, and that is all. -/
theorem adoptHomeOperator_of_reflects :
    ∃ trail, run.adoptHomeOperator cfg modem = { run with trail } := by
  simp only [adoptHomeOperator]
  cases hname : modem.homeOperator? with
  | none => exact ⟨_, rfl⟩
  | some name =>
    dsimp only
    split
    case isTrue hcard => exact ⟨_, if_pos (h.cachedName_eq name hname hcard)⟩
    case isFalse => exact ⟨_, rfl⟩

theorem observeNetwork_of_reflects :
    ∃ trail, run.observeNetwork cfg modem = { run with trail } := by
  have hattached := h.attached_eq
  simp only [observeNetwork]
  split
  case isTrue hsome =>
    rw [if_pos (hattached.trans hsome)]
    exact adoptHomeOperator_of_reflects h
  case isFalse hnone =>
    rw [if_neg (by rw [hattached]; exact hnone)]
    exact ⟨_, rfl⟩

theorem observeAll_of_reflects : ∃ trail, run.observeAll cfg modem = { run with trail } := by
  obtain ⟨first, hnetwork⟩ : ∃ trail, run.observeNetwork cfg modem = { run with trail } :=
    observeNetwork_of_reflects h
  have h' : ({ run with trail := first } : Run σ).Reflects modem := h
  simp only [observeAll]
  rw [observeIccid_of_reflects h, hnetwork, observeImsi_of_reflects h',
    observeCardName_of_reflects h']
  exact adoptHomeOperator_of_reflects h'

theorem observe_of_reflects (change : Change) :
    ∃ trail, run.observe cfg modem change = { run with trail } := by
  cases change with
  | iccid =>
    have h' : (run.note (.iccidReported modem.iccid)).Reflects modem := h
    exact ⟨_, observeIccid_of_reflects h'⟩
  | imsi => exact ⟨_, observeImsi_of_reflects h⟩
  | spn => exact ⟨_, observeCardName_of_reflects h⟩
  | network => exact observeNetwork_of_reflects h
  | networkStatus =>
    simp only [observe]
    split
    · exact adoptHomeOperator_of_reflects h
    · exact ⟨_, rfl⟩

end Reflects

/-! ### Calls -/

omit [StringStore σ] in
/-- Where nothing is due, an announcement says nothing. -/
theorem announce_of_due_empty {run : Run σ} (h : run.due = ∅) : run.announce = run := by
  have hnews : run.sent ++ (∅ : SignalSet).toList.map
      (fun signal => ({ signal, identity := run.identity } : Notification)) = run.sent :=
    List.append_nil _
  simp only [announce]
  rw [h, hnews, ← h]

/-- Trying failed writes again replaces nothing that a modem is compared with. -/
theorem reflects_retryWrites (h : run.Reflects modem) : (run.retryWrites cfg).Reflects modem := by
  obtain ⟨_, _, _, _, _, hretry⟩ := retryWrites_touches cfg run
  rw [hretry]
  exact { h with }

/-- All that is left of a call is to try failed writes again. -/
theorem perform_of_reflects (h : run.Reflects modem) (hdue : run.due = ∅) (call : Call) :
    ∃ trail, run.perform cfg modem call = { run.retryWrites cfg with trail } := by
  have hretry : (run.retryWrites cfg).Reflects modem := reflects_retryWrites h
  have hannounce {later : Run σ} (hlater : ∃ trail, later = { run.retryWrites cfg with trail }) :
      ∃ trail, later.announce = { run.retryWrites cfg with trail } := by
    obtain ⟨trail, rfl⟩ := hlater
    obtain ⟨_, _, _, _, _, htouched⟩ := retryWrites_touches cfg run
    rw [htouched]
    exact ⟨trail, announce_of_due_empty hdue⟩
  cases call with
  | report change => exact hannounce (observe_of_reflects hretry change)
  | resync => exact hannounce (observeAll_of_reflects hretry)

/-- Over any number of calls, nothing is touched but what is needed to try failed writes again. -/
theorem performAll_of_reflects (h : run.Reflects modem) (hdue : run.due = ∅) (calls : List Call) :
    ∃ store trail imsiDirty nameDirty writeFailed,
      run.performAll cfg (calls.map (modem, ·)) =
        { run with store, trail, imsiDirty, nameDirty, writeFailed } := by
  induction calls generalizing run with
  | nil => exact ⟨_, _, _, _, _, rfl⟩
  | cons call rest ih =>
    obtain ⟨trail, hperform⟩ : ∃ trail, run.perform cfg modem call =
      { run.retryWrites cfg with trail } := perform_of_reflects h hdue call
    obtain ⟨_, _, _, _, _, hretry⟩ := retryWrites_touches cfg run
    rw [hretry] at hperform
    have h' : (run.perform cfg modem call).Reflects modem := by
      rw [hperform]
      exact { h with }
    have hdue' : (run.perform cfg modem call).due = ∅ := by
      rw [hperform]
      exact hdue
    obtain ⟨_, _, _, _, _, hrest⟩ := ih h' hdue'
    rw [List.map_cons, performAll_cons, hrest, hperform]
    exact ⟨_, _, _, _, _, rfl⟩

/-- As long as no write has failed, the stores are left alone. -/
theorem store_performAll_of_reflects (h : run.Reflects modem) (hdue : run.due = ∅)
    (hfailed : run.writeFailed = false) (calls : List Call) :
    (run.performAll cfg (calls.map (modem, ·))).store = run.store := by
  induction calls generalizing run with
  | nil => rfl
  | cons call rest ih =>
    obtain ⟨trail, hperform⟩ : ∃ trail, run.perform cfg modem call =
      { run.retryWrites cfg with trail } := perform_of_reflects h hdue call
    rw [retryWrites_of_not_failed hfailed] at hperform
    rw [List.map_cons, performAll_cons, hperform, ih]
    · exact h
    · exact hdue
    · exact hfailed

end Run

/-- The runs in which a tracker has just read everything that the modem shows. -/
inductive JustRead (cfg : Config) (modem : Modem) : Run σ → Prop where
  /-- It has just begun. -/
  | start (store : σ) : JustRead cfg modem (Run.start cfg modem store)
  /-- It was called to read everything again. -/
  | resync {run : Run σ} : Reachable cfg run → JustRead cfg modem (run.resync cfg modem)

namespace JustRead

theorem reachable (h : JustRead cfg modem run) : Reachable cfg run := by
  cases h with
  | start store => exact .start modem store
  | resync hrun => exact hrun.perform modem .resync

theorem reflects (h : JustRead cfg modem run) : run.Reflects modem := by
  cases h with
  | start store =>
    have h := Run.reflects_observeAll cfg modem
      ({ identity := { path := modem.path }, store } : Run σ)
    obtain ⟨_, hstart⟩ := Run.start_touches cfg modem store
    rw [hstart]
    exact { h with }
  | @resync run hrun =>
    have h := Run.reflects_observeAll cfg modem (run.retryWrites cfg)
    exact { h with }

end JustRead

/-- **Repeated values change nothing.** After a tracker has read everything, calls of any kind and
number send nothing and leave everything that is known of the card, as long as the modem shows the
same, and whatever the stores answer. The stores are used to try failed writes again, and for
nothing else; so if no write has failed, or none since the last such attempt, they are not used at
all. -/
theorem repeated_values_change_nothing (h : JustRead cfg modem run) (calls : List Call) :
    let later := run.performAll cfg (calls.map (modem, ·))
    later.sent = run.sent ∧ later.identity = run.identity ∧ later.cardName = run.cardName ∧
      later.cachedName = run.cachedName ∧ later.fallback = run.fallback ∧
      later.attached = run.attached ∧
      (∀ call, (later.perform cfg modem call).store = (later.retryWrites cfg).store) ∧
      (¬ WriteFailed later.trail → ∀ more : List Call,
        (later.performAll cfg (more.map (modem, ·))).store = later.store) := by
  intro later
  have hreachable : Reachable cfg later := h.reachable.performAll _
  obtain ⟨store, trail, imsiDirty, nameDirty, writeFailed, hlater⟩ :=
    Run.performAll_of_reflects h.reflects h.reachable.due_eq_empty calls
  have hreflects : later.Reflects modem := by
    have h := h.reflects
    rw [show later = _ from hlater]
    exact { h with }
  have hdue : later.due = ∅ := hreachable.due_eq_empty
  refine ⟨?_, ?_, ?_, ?_, ?_, ?_, fun call => ?_, fun hnone more => ?_⟩
  · rw [show later = _ from hlater]
  · rw [show later = _ from hlater]
  · rw [show later = _ from hlater]
  · rw [show later = _ from hlater]
  · rw [show later = _ from hlater]
  · rw [show later = _ from hlater]
  · obtain ⟨_, hperform⟩ := Run.perform_of_reflects hreflects hdue call
    rw [hperform]
  · refine Run.store_performAll_of_reflects hreflects hdue ?_ more
    exact Bool.eq_false_iff.2 fun hfailed => hnone (hreachable.writeFailed_iff.1 hfailed)

/-- Over a memory that refuses the first three commits, the calls after the start repeat what it
refused, and end with nothing left to write. -/
theorem repeated_values_at_home :
    let run := Run.start {} Modem.atHome { commitPlan := [false, false, false] : UnreliableStore }
    let calls : List Call := [.report .network, .resync, .report .iccid]
    let later := run.performAll {} (calls.map (Modem.atHome, ·))
    JustRead {} Modem.atHome run ∧ run.writeFailed = true ∧ later.writeFailed = false ∧
      later.sent = run.sent ∧ later.identity = run.identity := by
  intro run calls later
  have hread : JustRead {} Modem.atHome run := .start _
  have hrepeated := repeated_values_change_nothing hread calls
  refine ⟨hread, ?_, ?_, hrepeated.1, hrepeated.2.1⟩
  · decide +kernel
  · decide +kernel

end SimIdentity
