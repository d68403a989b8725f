import SimIdentity.Proofs.Recognition
import SimIdentity.Proofs.Retention

/-!
# Starting without a word

A tracker may be told not to speak while it is being set up. That must be all there is to it: what
it finds out and how it uses the stores is the same, so that nobody can tell afterwards which kind
of start it was.

A tracker that speaks tells what there is to see once everything was looked at. A value may have
been set several times by then, the subscription by the cache and by the card, the name from up to
four sources, and each time the signal became due. Nothing was known at first, so a signal is one
too many only if its part is unknown again in the end. `Run.DueKnown` is the invariant that excludes
this. Each step makes a signal due for a reason (`Run.Candid`), and what is known stays known, since
no card is lost in a start (`Run.Retains`).

The name is the one part that is not known by itself. It is shown as long as there is a name for the
cache or a fallback name (`spn_ne_none_iff`), and the fallback name is read again in the middle of a
start. But then it was read from the same modem before, or not at all.

## What is proved

`silent_start_only_drops_signals`: the two kinds of start differ in what is sent, and what is sent
are the signals of what is known.
-/

namespace SimIdentity

/-- A name is shown as long as there is one for the cache or a fallback name. The card's name does
not count by itself, for it is the one for the cache too. -/
theorem Knowledge.Coherent.spn_ne_none_iff {knowledge : Knowledge} (h : knowledge.Coherent) :
    knowledge.identity.spn ≠ none ↔
      knowledge.cachedName ≠ none ∨ knowledge.fallback.text ≠ "" := by
  cases hcached : knowledge.cachedName with
  | some name =>
    rw [h.spn_of_cachedName hcached]
    exact iff_of_true (Option.some_ne_none name) (.inl (Option.some_ne_none name))
  | none =>
    have hcard : knowledge.cardName = none := by
      by_contra hnamed
      exact hnamed ((h.cachedName_eq hnamed).symm.trans hcached)
    rw [h.spn_eq, hcard, hcached, publicName?_eq]
    show known (some knowledge.fallback.text) ≠ none ↔ _
    by_cases hempty : knowledge.fallback.text = ""
    · simp [hempty]
    · rw [known_some hempty]
      exact iff_of_true (Option.some_ne_none _) (.inr hempty)

namespace Run

variable {σ : Type} {run later : Run σ}

/-! ### What is known stays known -/

/-- What is retained is shown, if the serial number and a fallback name are left alone. -/
theorem Retains.part_ne_none (h : Retains run later) (hcoherent : run.Coherent)
    (hcoherent' : later.Coherent) (hiccid : later.identity.iccid = run.identity.iccid)
    (hfallback : run.fallback.text ≠ "" → later.fallback = run.fallback) {signal : Signal}
    (hshown : run.identity.part signal ≠ none) : later.identity.part signal ≠ none := by
  cases signal with
  | iccid =>
    show later.identity.iccid ≠ none
    rw [hiccid]
    exact hshown
  | imsi => exact h.imsi hshown
  | spn =>
    refine hcoherent'.spn_ne_none_iff.2 ?_
    rcases hcoherent.spn_ne_none_iff.1 hshown with hcached | hnamed
    · exact .inl (h.cachedName hcached)
    · rw [hfallback hnamed]
      exact .inr hnamed

/-- The signals that are due are those of parts that are known. -/
def DueKnown (run : Run σ) : Prop :=
  ∀ signal, signal ∈ run.due → run.identity.part signal ≠ none

namespace DueKnown

/-- A step that has reasons for its signals, and leaves nothing unknown that was known, keeps the
signals to what is known. -/
theorem step (h : run.DueKnown) (hcandid : ∀ signal, Candid signal run later)
    (hshown : ∀ signal, run.identity.part signal ≠ none → later.identity.part signal ≠ none) :
    later.DueKnown := by
  intro signal hdue
  rcases hcandid signal hdue with hold | hchange
  · exact hshown signal (h signal hold)
  · by_cases hknown : run.identity.part signal = none
    · rwa [hknown] at hchange
    · exact hshown signal hknown

variable [StringStore σ] (cfg : Config) (modem : Modem)

theorem observeNetwork (h : run.DueKnown) (hcoherent : run.Coherent) :
    (run.observeNetwork cfg modem).DueKnown := by
  have htouched := observeNetwork_touches cfg modem run
  have hlater := hcoherent.observeNetwork cfg modem
  refine h.step (fun _ => candid_observeNetwork modem run) fun signal => ?_
  exact (retains_observeNetwork cfg modem run).part_ne_none hcoherent hlater htouched.iccid_eq
    fun _ => htouched.fallback_eq

/-- The fallback name that is read with the subscription must be the one that was read before, if
one was. -/
theorem observeImsi (h : run.DueKnown) (hcoherent : run.Coherent)
    (hfallback : run.fallback.text ≠ "" → run.fallback = modem.fallbackName) :
    (run.observeImsi cfg modem).DueKnown := by
  obtain ⟨_, htouched⟩ := observeImsi_touches cfg modem run
  have hlater := hcoherent.observeImsi cfg modem
  refine h.step (fun _ => candid_observeImsi modem hcoherent) fun signal => ?_
  exact (retains_observeImsi cfg modem run).part_ne_none hcoherent hlater htouched.iccid_eq
    fun hnamed => htouched.fallback_eq.trans (hfallback hnamed).symm

theorem observeCardName (h : run.DueKnown) (hcoherent : run.Coherent) :
    (run.observeCardName cfg modem).DueKnown := by
  have htouched := observeCardName_touches cfg modem run
  have hlater := hcoherent.observeCardName cfg modem
  refine h.step (fun _ => candid_observeCardName modem run) fun signal => ?_
  exact (retains_observeCardName cfg modem run).part_ne_none hcoherent hlater htouched.iccid_eq
    fun _ => htouched.fallback_eq

theorem adoptHomeOperator (h : run.DueKnown) (hcoherent : run.Coherent) :
    (run.adoptHomeOperator cfg modem).DueKnown := by
  have htouched := adoptHomeOperator_touches cfg modem run
  have hlater := hcoherent.adoptHomeOperator cfg modem
  refine h.step (fun _ => candid_adoptHomeOperator modem run) fun signal => ?_
  exact (retains_adoptHomeOperator cfg modem run).part_ne_none hcoherent hlater htouched.iccid_eq
    fun _ => htouched.fallback_eq

end DueKnown

/-! ### Reading everything where nothing was known -/

variable [StringStore σ] {cfg : Config} {modem : Modem}

/-- A modem that shows no serial number has nothing to tell with it where none was known. -/
theorem observeIccid_of_none (cfg : Config) (hvacant : run.Vacant)
    (hnone : known modem.iccid = none) : run.observeIccid cfg modem = run := by
  simp only [observeIccid]
  exact if_pos (hvacant.iccid_eq.trans hnone.symm)

/-- A fallback name that was read with the serial number is the one of this modem. -/
theorem fallback_eq_of_vacant (cfg : Config) (hvacant : run.Vacant)
    (hnamed : (run.observeIccid cfg modem).fallback.text ≠ "") :
    (run.observeIccid cfg modem).fallback = modem.fallbackName := by
  cases hiccid : known modem.iccid with
  | none =>
    rw [observeIccid_of_none cfg hvacant hiccid, hvacant.fallback_eq] at hnamed
    exact absurd FallbackName.text_empty hnamed
  | some iccid =>
    rw [fallback_observeIccid_of_vacant cfg hvacant hiccid] at hnamed ⊢
    split
    case isTrue himsi =>
      rw [if_pos himsi] at hnamed
      exact absurd FallbackName.text_empty hnamed
    case isFalse => rfl

theorem dueKnown_observeIccid (cfg : Config) (modem : Modem) (h : run.Coherent)
    (hvacant : run.Vacant) (hdue : run.due = ∅) : (run.observeIccid cfg modem).DueKnown := by
  intro signal hmem
  cases hiccid : known modem.iccid with
  | none =>
    rw [observeIccid_of_none cfg hvacant hiccid, hdue] at hmem
    exact absurd hmem (SignalSet.not_mem_empty signal)
  | some iccid =>
    rw [due_observeIccid_of_vacant cfg h hvacant hdue hiccid, mem_dueOnLoss,
      SignalSet.mem_insert] at hmem
    rcases hmem with (rfl | hnone) | ⟨-, hknown⟩
    · show (run.observeIccid cfg modem).identity.iccid ≠ none
      rw [iccid_observeIccid, hiccid]
      exact Option.some_ne_none iccid
    · exact absurd hnone (SignalSet.not_mem_empty signal)
    · exact hknown

theorem dueKnown_observeAll (cfg : Config) (modem : Modem) (h : run.Coherent)
    (hvacant : run.Vacant) (hdue : run.due = ∅) : (run.observeAll cfg modem).DueKnown := by
  -- the network comes between the two steps that read the fallback name, and leaves it alone
  have hfallback (hnamed : ((run.observeIccid cfg modem).observeNetwork cfg modem).fallback.text ≠
      "") : ((run.observeIccid cfg modem).observeNetwork cfg modem).fallback =
        modem.fallbackName := by
    rw [(observeNetwork_touches cfg modem _).fallback_eq] at hnamed ⊢
    exact fallback_eq_of_vacant cfg hvacant hnamed
  have hcoherent := h.observeIccid cfg modem
  have hcoherent' := hcoherent.observeNetwork cfg modem
  have hcoherent'' := hcoherent'.observeImsi cfg modem
  have hiccid := dueKnown_observeIccid cfg modem h hvacant hdue
  have hnetwork := hiccid.observeNetwork cfg modem hcoherent
  have himsi := hnetwork.observeImsi cfg modem hcoherent' hfallback
  have hname := himsi.observeCardName cfg modem hcoherent''
  exact hname.adoptHomeOperator cfg modem (hcoherent''.observeCardName cfg modem)

/-- Where nothing was known, the signals that become due are exactly those of what is known then. -/
theorem mem_due_observeAll_of_vacant (cfg : Config) (modem : Modem) (h : run.Coherent)
    (hvacant : run.Vacant) (hdue : run.due = ∅) (signal : Signal) :
    signal ∈ (run.observeAll cfg modem).due ↔
      (run.observeAll cfg modem).identity.part signal ≠ none := by
  have hprogress : Progress cfg none run (run.observeAll cfg modem) := progress_observeAll modem run
  constructor
  · exact dueKnown_observeAll cfg modem h hvacant hdue signal
  · intro hknown
    refine hprogress.mem_due (Option.some_ne_none _) (.inr ?_)
    rwa [hvacant.part_eq h]

end Run

variable {σ : Type} [StringStore σ]

/-- **A silent start only drops the signals.** Whatever the modem shows and the stores hold and
answer, a tracker that was started without a word is the one that speaks at its start, with the same
knowledge, the same trail and the same stores, those that keep a record of the accesses included. It
has sent nothing. The other one has sent the signals of what is known now, each of them once, in
their order and with the identity as it is now. -/
theorem silent_start_only_drops_signals (cfg : Config) (modem : Modem) (store : σ) :
    let silent := Run.start { cfg with silentStart := true } modem store
    let loud := Run.start { cfg with silentStart := false } modem store
    let news := Signal.all.filter fun signal => loud.identity.part signal ≠ none
    silent.sent = [] ∧
      loud = { silent with sent := news.map fun signal => ⟨signal, silent.identity⟩ } := by
  intro silent loud news
  obtain ⟨blank, hblank⟩ : ∃ blank : Run σ, blank = { identity := { path := modem.path }, store } :=
    ⟨_, rfl⟩
  have hcoherent : blank.Coherent := by
    rw [hblank]
    exact Knowledge.coherent_blank modem.path store
  have hvacant : blank.Vacant := by
    rw [hblank]
    exact ⟨rfl, rfl, rfl, rfl, rfl⟩
  have hdue : blank.due = ∅ := by
    rw [hblank]
  -- whether it may speak is not looked at before everything was read
  have hsilent : silent = (blank.observeAll cfg modem).silence.note .started := by
    rw [hblank]
    rfl
  have hloud : loud = (blank.observeAll cfg modem).announce.note .started := by
    rw [hblank]
    rfl
  have hsent : (blank.observeAll cfg modem).sent = [] := by
    have hprogress : Progress cfg none blank (blank.observeAll cfg modem) :=
      Run.progress_observeAll modem blank
    rw [hprogress.sent_eq, hblank]
  have hnews : (blank.observeAll cfg modem).due.toList = news := by
    refine List.filter_congr fun signal _ => ?_
    rw [Bool.eq_iff_iff, decide_eq_true_iff, hloud]
    exact Run.mem_due_observeAll_of_vacant cfg modem hcoherent hvacant hdue signal
  rw [hsilent, hloud]
  refine ⟨hsent, ?_⟩
  rw [← hnews]
  simp only [Run.announce, hsent, List.nil_append]
  rfl

end SimIdentity
