import SimIdentity.Proofs.Alike
import SimIdentity.Proofs.Failure

/-!
# Reading everything, and hearing of everything

There are two ways for a tracker to catch up with its modem: to read everything at once, or to be
told of every change. The first one tries failed writes again once and announces once, at the end.
The second one does so for each report.

As long as no access to the stores fails, the announcements in between are all the difference
(`resync_agrees_with_reports`). What is tried again before the first report succeeds, and nothing is
left to be tried before the others. So the reports find the tracker where reading everything has it
at that point, but for the signals that were heard already (`Abreast`).
-/

namespace SimIdentity

variable {σ : Type} [StringStore σ] {cfg : Config} {modem : Modem} {run other : Run σ}

/-! ### Announcing in between -/

theorem works_foldl_observe (modem : Modem) (changes : List Change) :
    Works cfg run (changes.foldl (fun run change => run.observe cfg modem change) run) := by
  induction changes generalizing run with
  | nil => exact .refl
  | cons change rest ih => exact (Works.refl.observe modem change).trans ih

/-- The second tracker is where the first one is. Since `sent` was sent, it has announced some of
the signals that the first one still has to announce. -/
def Abreast (cfg : Config) (sent : List Notification) (run other : Run σ) : Prop :=
  ∃ news, other.sent = sent ++ news ∧
    Alike (.same σ cfg) (fun signal => signal ∈ news.map (·.signal)) run other

namespace Abreast

variable {sent : List Notification}

theorem refl (cfg : Config) (run : Run σ) : Abreast cfg run.sent run run :=
  ⟨[], (List.append_nil _).symm, .refl run fun _ => List.not_mem_nil⟩

/-- It stays there if it announces after each observation. -/
theorem observe (h : Abreast cfg sent run other) (modem : Modem) (change : Change) :
    Abreast cfg sent (run.observe cfg modem change) (other.observe cfg modem change).announce := by
  obtain ⟨news, hsent, halike⟩ := h
  have hobserved := halike.observe modem change
  have hprogress : Progress cfg none other (other.observe cfg modem change) :=
    Run.progress_observe modem change other
  generalize run.observe cfg modem change = later at hobserved ⊢
  generalize other.observe cfg modem change = later' at hobserved hprogress ⊢
  refine ⟨news ++ later'.due.toList.map fun signal => { signal, identity := later'.identity }, ?_,
    { hobserved with mem_due_iff := fun signal => ?_ }⟩
  · rw [← List.append_assoc, ← hsent, ← hprogress.sent_eq]
    rfl
  · rw [hobserved.mem_due_iff]
    simp [Run.announce, or_comm]

/-- It stays there over any number of reports, as long as no access to the stores fails. -/
theorem reports {shown : σ → Prop} (hsign : StringStore.FailureSign shown)
    (h : Abreast cfg sent run other) (hfailure : run.ShowsFailure shown) (modem : Modem)
    (changes : List Change)
    (hquiet : ¬ shown (changes.foldl (fun run change => run.observe cfg modem change) run).store) :
    Abreast cfg sent (changes.foldl (fun run change => run.observe cfg modem change) run)
      (other.performAll cfg (changes.map fun change => (modem, .report change))) := by
  induction changes generalizing run other with
  | nil => exact h
  | cons change rest ih =>
    have hworks : Works cfg run (run.observe cfg modem change) := Works.refl.observe modem change
    have hrest : Works cfg (run.observe cfg modem change) (rest.foldl
        (fun run change => run.observe cfg modem change) (run.observe cfg modem change)) :=
      works_foldl_observe modem rest
    have hclean : other.writeFailed = false := by
      obtain ⟨news, -, halike⟩ := h
      rw [← halike.writeFailed_eq, Bool.eq_false_iff]
      exact fun hfailed => hquiet (hrest.shown hsign (hworks.shown hsign (hfailure hfailed)))
    have hreport : other.perform cfg modem (.report change) =
        (other.observe cfg modem change).announce := by
      show ((other.retryWrites cfg).observe cfg modem change).announce = _
      rw [Run.retryWrites_of_not_failed hclean]
    rw [List.map_cons, Run.performAll_cons, hreport]
    exact ih (h.observe modem change) (hworks.showsFailure hsign hfailure) hquiet

end Abreast

/-! ### Reading everything is observing every change -/

/-- The changes that cover all that a modem shows, in the order in which it is read. -/
def Change.all : List Change := [.iccid, .network, .imsi, .spn, .networkStatus]

namespace Run

/-- After observing the network, the subscription and the name on the card, it is known whether a
network is attached. -/
theorem attached_observe_names (cfg : Config) (modem : Modem) (run : Run σ) :
    (((run.observeNetwork cfg modem).observeImsi cfg modem).observeCardName cfg modem).attached =
      modem.network.isSome := by
  have hnetwork := observeNetwork_touches cfg modem run
  generalize run.observeNetwork cfg modem = second at hnetwork ⊢
  obtain ⟨_, himsi⟩ := observeImsi_touches cfg modem second
  generalize second.observeImsi cfg modem = third at himsi ⊢
  rw [(observeCardName_touches cfg modem third).attached_eq, himsi.attached_eq,
    hnetwork.attached_eq]

/-- The operator's name may be looked for even if no network is attached. -/
theorem observe_networkStatus (h : run.attached = modem.network.isSome) :
    run.observe cfg modem .networkStatus = run.adoptHomeOperator cfg modem := by
  simp only [observe]
  split
  case isTrue => rfl
  case isFalse hnone =>
    refine (adoptHomeOperator_of_not_attached ?_ cfg run).symm
    rw [← h]
    exact Bool.eq_false_iff.2 hnone

/-- Reading everything comes down to observing one change after the other. -/
theorem alike_observeAll (cfg : Config) (modem : Modem) (run : Run σ) :
    Alike (.same σ cfg) (fun _ => False) (run.observeAll cfg modem)
      (Change.all.foldl (fun run change => run.observe cfg modem change) run) := by
  have hnote : Alike (.same σ cfg) (fun _ => False) run (run.note (.iccidReported modem.iccid)) :=
    { Alike.refl run fun _ => id with }
  have hiccid := hnote.observeIccid modem
  show Alike _ _ (run.observeAll cfg modem)
    ((((((run.note (.iccidReported modem.iccid)).observeIccid cfg modem).observeNetwork cfg
      modem).observeImsi cfg modem).observeCardName cfg modem).observe cfg modem .networkStatus)
  generalize (run.note (.iccidReported modem.iccid)).observeIccid cfg modem = first at hiccid ⊢
  rw [observe_networkStatus (attached_observe_names cfg modem first)]
  have hnames := ((hiccid.observe modem .network).observeImsi modem).observeCardName modem
  exact hnames.adoptHomeOperator modem

/-- Reports of all changes keep up with reading everything, as long as no access to the stores
fails. -/
theorem abreast_observeAll {shown : σ → Prop} (hsign : StringStore.FailureSign shown)
    (hfailure : run.ShowsFailure shown) (modem : Modem)
    (hquiet : ¬ shown (run.observeAll cfg modem).store) :
    Abreast cfg run.sent (run.observeAll cfg modem)
      (run.performAll cfg (Change.all.map fun change => (modem, .report change))) := by
  have halike := alike_observeAll cfg modem run
  have hstore : (run.observeAll cfg modem).store =
      (Change.all.foldl (fun run change => run.observe cfg modem change) run).store := halike.akin
  rw [hstore] at hquiet
  obtain ⟨news, hsent, hreports⟩ :=
    (Abreast.refl cfg run).reports hsign hfailure modem Change.all hquiet
  exact ⟨news, hsent, halike.trans hreports⟩

/-- Once failed writes were tried again with success, a call need not try them again. -/
theorem perform_retryWrites (hclean : (run.retryWrites cfg).writeFailed = false) (modem : Modem)
    (call : Call) : (run.retryWrites cfg).perform cfg modem call = run.perform cfg modem call := by
  cases call with
  | report change =>
    show (((run.retryWrites cfg).retryWrites cfg).observe cfg modem change).announce = _
    rw [retryWrites_of_not_failed hclean]
    rfl
  | resync =>
    show (((run.retryWrites cfg).retryWrites cfg).observeAll cfg modem).announce = _
    rw [retryWrites_of_not_failed hclean]
    rfl

/-- The tracker, with a record of the accesses to its stores from now on. -/
def recorded (run : Run σ) : Run (Recorded σ) where
  toKnowledge := run.toKnowledge
  store := .ofStore run.store
  trail := run.trail
  sent := run.sent

end Run

/-- **Reading everything agrees with hearing of everything.** In any state of a tracker, and over
any stores, let no access to them fail while everything is read again. Then reports of all changes,
one after the other, lead to the same tracker, down to the record of all accesses to the stores. And
the signals that are sent for the reports are together the ones that are sent for reading
everything. -/
theorem resync_agrees_with_reports (cfg : Config) (modem : Modem) (run : Run σ)
    (hquiet : ¬ (run.recorded.resync cfg modem).store.HasFailed) :
    let resynced := run.recorded.resync cfg modem
    let reported := run.recorded.performAll cfg
      ([.iccid, .network, .imsi, .spn, .networkStatus].map fun change => (modem, .report change))
    reported.toTracker = resynced.toTracker ∧
      ∃ news news', resynced.sent = run.sent ++ news ∧ reported.sent = run.sent ++ news' ∧
        ∀ signal, signal ∈ news'.map (·.signal) ↔ signal ∈ news.map (·.signal) := by
  intro resynced reported
  -- either way begins with the attempt to write again what failed
  have hfailure := Run.showsFailure_retryWrites Recorded.failureSign cfg run.recorded
  have hretry : Progress cfg none run.recorded (run.recorded.retryWrites cfg) :=
    Run.progress_retryWrites run.recorded
  have hobserve : Progress cfg none (run.recorded.retryWrites cfg)
      ((run.recorded.retryWrites cfg).observeAll cfg modem) := Run.progress_observeAll modem _
  have hworks : Works cfg (run.recorded.retryWrites cfg)
      ((run.recorded.retryWrites cfg).observeAll cfg modem) := Works.refl.observeAll modem
  have hclean : (run.recorded.retryWrites cfg).writeFailed = false :=
    Bool.eq_false_iff.2 fun hfailed => hquiet (hworks.shown Recorded.failureSign (hfailure hfailed))
  have hreported : reported = (run.recorded.retryWrites cfg).performAll cfg
      (Change.all.map fun change => (modem, .report change)) := by
    show (run.recorded.perform cfg modem (.report .iccid)).performAll cfg _ = _
    rw [← Run.perform_retryWrites hclean]
    rfl
  have hdue : reported.due = ∅ := Run.due_perform cfg modem (.report .networkStatus) _
  have hpath : reported.identity.path = resynced.identity.path :=
    (Run.path_performAll cfg _ run.recorded).trans
      (Run.path_performAll cfg [(modem, .resync)] run.recorded).symm
  obtain ⟨news', hsent', halike⟩ :=
    Run.abreast_observeAll Recorded.failureSign hfailure modem hquiet
  rw [← hreported, hretry.sent_eq] at hsent'
  rw [← hreported] at halike
  refine ⟨?_, ((run.recorded.retryWrites cfg).observeAll cfg modem).due.toList.map fun signal =>
    { signal, identity := resynced.identity }, news', ?_, hsent', fun signal => ?_⟩
  · have hresynced : Alike (.same _ cfg) (fun _ => False) resynced reported :=
      { halike with
        mem_due_iff := fun signal => by
          rw [hdue]
          exact (or_false _).symm.to_iff }
    exact (hresynced.toTracker_eq hpath.symm hdue.symm).symm
  · have hsent : ((run.recorded.retryWrites cfg).observeAll cfg modem).sent = run.sent :=
      hobserve.sent_eq.trans hretry.sent_eq
    rw [← hsent]
    rfl
  · have hmem := halike.mem_due_iff signal
    rw [hdue, or_iff_right (SignalSet.not_mem_empty signal)] at hmem
    simp [← hmem]

/-- A card at home is read with eighteen accesses. Told by reports, its name is announced twice. -/
theorem resync_at_home :
    let run := Run.start {} { path := "/ril_0" } (∅ : VolatileStore)
    let resynced := run.recorded.resync {} Modem.atHome
    let reported := run.recorded.performAll {}
      ([.iccid, .network, .imsi, .spn, .networkStatus].map fun change =>
        (Modem.atHome, .report change))
    ¬ resynced.store.HasFailed ∧ reported.toTracker = resynced.toTracker ∧
      resynced.store.accesses.length = 18 ∧
      resynced.sent.map (·.signal) = [.iccid, .imsi, .spn] ∧
      reported.sent.map (·.signal) = [.iccid, .spn, .imsi, .spn] := by
  intro run resynced reported
  have hquiet : ¬ resynced.store.HasFailed := by
    have hall : resynced.store.accesses.all Access.succeeded = true := by decide +kernel
    rintro ⟨access, hmem, hfailed⟩
    rw [List.all_eq_true.1 hall access hmem] at hfailed
    cases hfailed
  refine ⟨hquiet, (resync_agrees_with_reports {} Modem.atHome run hquiet).1, ?_, ?_, ?_⟩
  · decide +kernel
  · decide +kernel
  · decide +kernel

end SimIdentity
