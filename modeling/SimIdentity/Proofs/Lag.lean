import SimIdentity.Proofs.Alike
import SimIdentity.Proofs.Repetition
import SimIdentity.Tracker.Subscription

/-!
# Reports that were lost

A mailbox that is full makes room by losing the oldest report, and nobody knows any more what it
was about. The tracker is told of the loss before it gets the reports that are left, and reads
everything. Does it matter then what is left, how the tracker goes about it, and which of its writes
fail on the way?

Only the number of receipts does. Whether they are taken out at once or one by one, they are handled
in the order in which they were published (`Takes`), and to handle them is to answer calls, the loss
by reading everything and each report by what it calls for (`Takes.answers`). After a loss, the first
of these calls leaves the tracker in a state that reflects the modem, where further reports change
nothing.

## What is proved

`lost_reports_amount_to_resync`: what a mailbox holds after any reports, which calls are answered as
it is emptied, and that after a loss the tracker ends as if it had read everything once.
-/

namespace SimIdentity

/-! ### Filling a mailbox -/

namespace Mailbox

variable {α : Type}

theorem capacity_publish (box : Mailbox α) (message : α) :
    (box.publish message).capacity = box.capacity := by
  simp only [publish]
  split
  · rfl
  · rfl

/-- What does not fit is lost at the front. -/
theorem unread_publish (box : Mailbox α) (message : α) :
    (box.publish message).unread =
      (box.unread ++ [message]).drop ((box.unread ++ [message]).length - box.capacity) := by
  have hlength := box.length_le
  have hpos := box.capacity_pos
  simp only [publish, List.length_append, List.length_singleton]
  split
  case isTrue hroom => rw [Nat.sub_eq_zero_of_le hroom, List.drop_zero]
  case isFalse hfull =>
    have hone : box.unread.length + 1 - box.capacity = 1 := by omega
    have hhead : 1 ≤ box.unread.length := by omega
    rw [hone, List.drop_append_of_le_length hhead, List.drop_one]

/-- And it is counted. -/
theorem missed_publish (box : Mailbox α) (message : α) :
    (box.publish message).missed =
      box.missed + ((box.unread ++ [message]).length - box.capacity) := by
  have hlength := box.length_le
  simp only [publish, List.length_append, List.length_singleton]
  split
  case isTrue hroom =>
    rw [Nat.sub_eq_zero_of_le hroom]
    rfl
  case isFalse hfull =>
    have hone : box.unread.length + 1 - box.capacity = 1 := by omega
    rw [hone]

/-- Of any number of messages, the last ones are left, as many as there is room for. -/
theorem unread_publishAll (box : Mailbox α) (messages : List α) :
    (box.publishAll messages).unread =
      (box.unread ++ messages).drop ((box.unread ++ messages).length - box.capacity) := by
  induction messages generalizing box with
  | nil =>
    rw [List.append_nil, Nat.sub_eq_zero_of_le box.length_le]
    rfl
  | cons message rest ih =>
    show ((box.publish message).publishAll rest).unread = _
    have hpos := box.capacity_pos
    rw [ih, capacity_publish, unread_publish,
      ← List.drop_append_of_le_length (by omega), List.drop_drop, List.append_assoc]
    congr 1
    simp only [List.length_drop, List.length_append, List.length_cons, List.length_nil,
      List.singleton_append]
    omega

theorem missed_publishAll (box : Mailbox α) (messages : List α) :
    (box.publishAll messages).missed =
      box.missed + ((box.unread ++ messages).length - box.capacity) := by
  induction messages generalizing box with
  | nil =>
    rw [List.append_nil, Nat.sub_eq_zero_of_le box.length_le]
    rfl
  | cons message rest ih =>
    show ((box.publish message).publishAll rest).missed = _
    have hlength := box.length_le
    rw [ih, capacity_publish, unread_publish, missed_publish]
    simp only [List.length_drop, List.length_append, List.length_cons, List.length_nil]
    omega

end Mailbox

/-! ### Emptying a mailbox -/

/-- How a tracker can read from its mailbox. -/
inductive Reading where
  /-- It handles all receipts there are. -/
  | drain
  /-- It handles the next receipt, if there is one. -/
  | next
  deriving DecidableEq, Repr

variable {σ : Type} [StringStore σ] (cfg : Config) (modem : Modem)

namespace Run

/-- Reads from the mailbox in one of the two ways. -/
def read (reading : Reading) (box : Mailbox Change) (run : Run σ) : Mailbox Change × Run σ :=
  match reading with
  | .drain => run.drain cfg modem box
  | .next => (run.handleNext? cfg modem box).getD (box, run)

/-- Reads from the mailbox again and again, each time in one of the two ways. -/
def readAll (readings : List Reading) (box : Mailbox Change) (run : Run σ) :
    Mailbox Change × Run σ :=
  readings.foldl (fun (box, run) reading => run.read cfg modem reading box) (box, run)

/-- Handles receipts one after the other. -/
def handleReceipts (receipts : List (Receipt Change)) (run : Run σ) : Run σ :=
  receipts.foldl (fun run receipt => run.handleReceipt cfg modem receipt) run

end Run

/-- The first receipts were taken out of the mailbox, and handled in their order. -/
def Takes (box : Mailbox Change) (run : Run σ) (rest : Mailbox Change) (later : Run σ) : Prop :=
  ∃ handled, box.receipts = handled ++ rest.receipts ∧
    later = run.handleReceipts cfg modem handled

namespace Takes

variable {cfg modem} {box rest last : Mailbox Change} {run later latest : Run σ}

theorem refl (box : Mailbox Change) (run : Run σ) : Takes cfg modem box run box run :=
  ⟨[], rfl, rfl⟩

theorem trans (h : Takes cfg modem box run rest later)
    (h' : Takes cfg modem rest later last latest) : Takes cfg modem box run last latest := by
  obtain ⟨handled, hreceipts, hlater⟩ := h
  obtain ⟨handled', hreceipts', hlatest⟩ := h'
  refine ⟨handled ++ handled', ?_, ?_⟩
  · rw [hreceipts, hreceipts', List.append_assoc]
  · rw [hlatest, hlater, Run.handleReceipts, Run.handleReceipts, Run.handleReceipts,
      List.foldl_append]

end Takes

namespace Run

variable {cfg modem} {box : Mailbox Change} {run : Run σ}

theorem read_next_of_receive?_eq_none (h : box.receive? = none) :
    run.read cfg modem .next box = (box, run) := by
  simp only [read, handleNext?]
  rw [h]
  rfl

theorem read_next_of_receive? {receipt : Receipt Change} {rest : Mailbox Change}
    (h : box.receive? = some (receipt, rest)) :
    run.read cfg modem .next box = (rest, run.handleReceipt cfg modem receipt) := by
  simp only [read, handleNext?]
  rw [h]
  rfl

/-- Either way, the first receipts are taken out of the mailbox. -/
theorem takes_read (cfg : Config) (modem : Modem) (reading : Reading) (box : Mailbox Change)
    (run : Run σ) :
    Takes cfg modem box run (run.read cfg modem reading box).1
      (run.read cfg modem reading box).2 := by
  cases reading with
  | drain =>
    refine ⟨box.receipts, ?_, snd_drain cfg modem box run⟩
    show _ = _ ++ (run.drain cfg modem box).1.receipts
    rw [receipts_fst_drain, List.append_nil]
  | next =>
    cases hreceive : box.receive? with
    | none =>
      rw [read_next_of_receive?_eq_none hreceive]
      exact .refl box run
    | some received =>
      obtain ⟨receipt, rest⟩ := received
      rw [read_next_of_receive? hreceive]
      exact ⟨[receipt], Mailbox.receipts_of_receive? hreceive, rfl⟩

/-- It gets emptier each time. -/
theorem length_receipts_read_le (cfg : Config) (modem : Modem) (reading : Reading)
    (box : Mailbox Change) (run : Run σ) :
    (run.read cfg modem reading box).1.receipts.length ≤ box.receipts.length - 1 := by
  cases reading with
  | drain =>
    show (run.drain cfg modem box).1.receipts.length ≤ _
    rw [receipts_fst_drain]
    exact Nat.zero_le _
  | next =>
    cases hreceive : box.receive? with
    | none =>
      rw [read_next_of_receive?_eq_none hreceive, Mailbox.receive?_eq_none_iff.1 hreceive]
      exact Nat.zero_le _
    | some received =>
      obtain ⟨receipt, rest⟩ := received
      rw [read_next_of_receive? hreceive, Mailbox.receipts_of_receive? hreceive]
      exact Nat.le_refl _

theorem takes_readAll (cfg : Config) (modem : Modem) (readings : List Reading)
    (box : Mailbox Change) (run : Run σ) :
    Takes cfg modem box run (run.readAll cfg modem readings box).1
      (run.readAll cfg modem readings box).2 := by
  induction readings generalizing box run with
  | nil => exact .refl box run
  | cons reading rest ih => exact (takes_read cfg modem reading box run).trans (ih _ _)

/-- To drain a mailbox empties it, and so does asking for the next receipt often enough. -/
theorem receipts_readAll_eq_nil {readings : List Reading}
    (h : .drain ∈ readings ∨ box.receipts.length ≤ readings.length) :
    (run.readAll cfg modem readings box).1.receipts = [] := by
  induction readings generalizing box run with
  | nil =>
    have hnone : box.receipts.length ≤ 0 := h.resolve_left List.not_mem_nil
    exact List.eq_nil_of_length_eq_zero (Nat.le_zero.1 hnone)
  | cons reading rest ih =>
    have hread := length_receipts_read_le cfg modem reading box run
    refine ih ?_
    rcases h with hdrain | hlength
    · rcases List.mem_cons.1 hdrain with rfl | hdrain
      · right
        show (run.drain cfg modem box).1.receipts.length ≤ _
        rw [receipts_fst_drain]
        exact Nat.zero_le _
      · exact .inl hdrain
    · right
      rw [List.length_cons] at hlength
      exact Nat.le_trans hread (Nat.sub_le_of_le_add hlength)

/-! ### What is handled -/

/-- To handle messages is to answer the calls for what they report. -/
theorem handleReceipts_messages (changes : List Change) (run : Run σ) :
    run.handleReceipts cfg modem (changes.map .message) =
      run.performAll cfg (changes.map fun change => (modem, .report change)) := by
  induction changes generalizing run with
  | nil => rfl
  | cons change rest ih => exact ih _

/-- A loss is noted, and everything is read before the messages that are left are handled. -/
theorem handleReceipts_lagged (count : Nat) (changes : List Change) (run : Run σ) :
    run.handleReceipts cfg modem (.lagged count :: changes.map .message) =
      (run.note (.lagged count)).performAll cfg
        ((modem, .resync) :: changes.map fun change => (modem, .report change)) :=
  handleReceipts_messages changes _

end Run

/-- What was taken out of a mailbox are some messages, the loss, or the loss and some messages. They
were handled by answering calls. -/
theorem Takes.answers {cfg : Config} {modem : Modem} {box rest : Mailbox Change} {run later : Run σ}
    (h : Takes cfg modem box run rest later) :
    ∃ handled : List Change,
      (box.receipts = handled.map .message ++ rest.receipts ∧
        later = run.performAll cfg (handled.map fun change => (modem, .report change))) ∨
      (box.receipts = .lagged box.missed :: (handled.map .message ++ rest.receipts) ∧
        later = (run.note (.lagged box.missed)).performAll cfg
          ((modem, .resync) :: handled.map fun change => (modem, .report change))) := by
  obtain ⟨handled, hreceipts, rfl⟩ := h
  have hshape := hreceipts
  simp only [Mailbox.receipts] at hshape
  split at hshape
  case isTrue hmissed =>
    cases handled with
    | nil => exact ⟨[], .inl ⟨hreceipts, rfl⟩⟩
    | cons receipt others =>
      rw [List.singleton_append, List.cons_append] at hshape
      obtain ⟨rfl, hmessages⟩ := List.cons.inj hshape
      obtain ⟨changes, left, -, rfl, -⟩ := List.map_eq_append_iff.1 hmessages
      exact ⟨changes, .inr ⟨hreceipts, Run.handleReceipts_lagged _ _ _⟩⟩
  case isFalse hkept =>
    rw [List.nil_append] at hshape
    obtain ⟨changes, left, -, rfl, -⟩ := List.map_eq_append_iff.1 hshape
    exact ⟨changes, .inl ⟨hreceipts, Run.handleReceipts_messages _ _⟩⟩

/-! ### After a loss -/

namespace Run

/-- The trail plays no part in a call. -/
theorem perform_note (cfg : Config) (modem : Modem) (call : Call) (event : Event) (run : Run σ) :
    ∃ trail, (run.note event).perform cfg modem call =
      { run.perform cfg modem call with trail } := by
  have hnote : Alike (.same σ cfg) (fun _ => False) (run.note event) run :=
    { Alike.refl run fun _ => id with }
  obtain ⟨later, later', hlater, hprogress, hperform, hprogress', hperform'⟩ :=
    hnote.perform modem call
  have hdue : later.due = later'.due :=
    SignalSet.eq_of_mem_iff fun signal => (hlater.mem_due_iff signal).trans (or_false _).to_iff
  have htracker : later.toTracker = later'.toTracker :=
    hlater.toTracker_eq (hprogress.path_eq.trans hprogress'.path_eq.symm) hdue
  have hsent : later.sent = later'.sent := hprogress.sent_eq.trans hprogress'.sent_eq.symm
  have heq : later = { later' with trail := later.trail } := by
    rw [← htracker, ← hsent]
  rw [hperform, hperform', heq]
  exact ⟨_, rfl⟩

/-- Once everything was read, the reports that are left change nothing. -/
theorem performAll_resync_reports (cfg : Config) (modem : Modem) (changes : List Change)
    (event : Event) (run : Run σ) :
    ∃ store trail imsiDirty nameDirty writeFailed,
      (run.note event).performAll cfg
          ((modem, .resync) :: changes.map fun change => (modem, .report change)) =
        { run.resync cfg modem with store, trail, imsiDirty, nameDirty, writeFailed } := by
  have hreflects : (run.resync cfg modem).Reflects modem :=
    { reflects_observeAll cfg modem (run.retryWrites cfg) with }
  obtain ⟨trail, hresync⟩ : ∃ trail, (run.note event).perform cfg modem .resync =
      { run.resync cfg modem with trail } := perform_note cfg modem .resync event run
  have hread : ({ run.resync cfg modem with trail } : Run σ).Reflects modem := hreflects
  have hcalls : (changes.map fun change => (modem, Call.report change)) =
      (changes.map .report).map (modem, ·) := List.map_map.symm
  rw [performAll_cons, hresync, hcalls]
  exact performAll_of_reflects hread rfl (changes.map .report)

end Run

/-- **Lost reports amount to reading everything once.** Over any stores, and in any state of the
tracker, let any reports be published, and then let the tracker empty its mailbox as it likes.
The receipts that are due are the number of reports that were lost, if there are any, and the last
reports, as many as there is room for, in the order in which they were published. Whatever the
tracker does about the mailbox, it handles the first of them in this order and leaves the others
there. To handle them is to answer calls: if some reports were lost, this is noted and everything is
read, and then each report is answered. Nothing is left once the tracker has drained the mailbox, or
asked for the next receipt often enough. And if reports were lost and nothing is left, then all that
is known of the card, and all that was sent, is as if the tracker had only read everything once. -/
theorem lost_reports_amount_to_resync (cfg : Config) (modem : Modem) (box : Mailbox Change)
    (reports : List Change) (readings : List Reading) (run : Run σ) :
    let full := box.publishAll reports
    let lost := (box.unread ++ reports).length - box.capacity
    let missed := box.missed + lost
    let rest := (run.readAll cfg modem readings full).1
    let later := (run.readAll cfg modem readings full).2
    full.receipts =
        (if 0 < missed then [.lagged missed] else []) ++
          ((box.unread ++ reports).drop lost).map .message ∧
      (∃ handled : List Change,
        (full.receipts = handled.map .message ++ rest.receipts ∧
          later = run.performAll cfg (handled.map fun change => (modem, .report change))) ∨
        (full.receipts = .lagged missed :: (handled.map .message ++ rest.receipts) ∧
          later = (run.note (.lagged missed)).performAll cfg
            ((modem, .resync) :: handled.map fun change => (modem, .report change)))) ∧
      (.drain ∈ readings ∨ full.receipts.length ≤ readings.length → rest.receipts = []) ∧
      (0 < missed → rest.receipts = [] →
        let resynced := run.resync cfg modem
        later.identity = resynced.identity ∧ later.cardName = resynced.cardName ∧
          later.cachedName = resynced.cachedName ∧ later.fallback = resynced.fallback ∧
          later.attached = resynced.attached ∧ later.sent = resynced.sent) := by
  intro full lost missed rest later
  have hmissed : full.missed = missed := Mailbox.missed_publishAll box reports
  have hreceipts : full.receipts =
      (if 0 < missed then [.lagged missed] else []) ++
        ((box.unread ++ reports).drop lost).map .message := by
    rw [Mailbox.receipts, hmissed, Mailbox.unread_publishAll]
  obtain ⟨handled, hanswered⟩ := (Run.takes_readAll cfg modem readings full run).answers
  rw [hmissed] at hanswered
  refine ⟨hreceipts, ⟨handled, hanswered⟩, Run.receipts_readAll_eq_nil, fun hlost hrest => ?_⟩
  rw [if_pos hlost, List.singleton_append] at hreceipts
  rcases hanswered with ⟨htaken, -⟩ | ⟨-, hlater⟩
  · -- The loss was told first, so it was not only messages that were handled.
    rw [show _ = [] from hrest, List.append_nil, hreceipts] at htaken
    cases handled with
    | nil => cases htaken
    | cons change others => cases htaken
  · obtain ⟨_, _, _, _, _, hresync⟩ :=
      Run.performAll_resync_reports cfg modem handled (.lagged missed) run
    rw [show later = _ from hlater, hresync]
    exact ⟨rfl, rfl, rfl, rfl, rfl, rfl⟩

/-- Three reports are published, and the first two commits are refused. A mailbox for one report keeps
the last. The tracker takes everything over when it is told of the loss, and the report that is left
only has it try the refused writes again. A mailbox for three keeps them all, and they are answered in
their order. The codes of the home network are shown then before the card's name, so one signal more
is sent. -/
theorem reports_lost_and_kept_at_home :
    let reports : List Change := [.iccid, .imsi, .spn]
    let run := Run.start {} { path := "/ril_0" } ({ commitPlan := [false, false] } : UnreliableStore)
    let small := (Mailbox.empty 1 Nat.one_pos).publishAll reports
    let large := (Mailbox.empty 3 (Nat.succ_pos 2)).publishAll reports
    let readings : List Reading := [.next, .drain]
    let lost := run.readAll {} Modem.atHome readings small
    let kept := run.readAll {} Modem.atHome readings large
    let resynced := run.resync {} Modem.atHome
    (small.receipts = [.lagged 2, .message .spn] ∧ lost.1.receipts = [] ∧
      lost.2.sent = resynced.sent ∧ lost.2.sent.map (·.signal) = [.iccid, .imsi, .spn] ∧
      resynced.writeFailed = true ∧ lost.2.writeFailed = false) ∧
    (large.receipts = [.message .iccid, .message .imsi, .message .spn] ∧ kept.1.receipts = [] ∧
      kept.2 = run.performAll {} (reports.map fun change => (Modem.atHome, .report change)) ∧
      kept.2.sent.map (·.signal) = [.iccid, .imsi, .spn, .spn]) := by
  intro reports run small large readings lost kept resynced
  constructor
  · obtain ⟨hreceipts, -, hempty, hresync⟩ := lost_reports_amount_to_resync {} Modem.atHome
      (.empty 1 Nat.one_pos) reports readings run
    have hrest : lost.1.receipts = [] := hempty (.inl (by decide))
    obtain ⟨-, -, -, -, -, hsent⟩ := hresync (by decide +kernel) hrest
    refine ⟨hreceipts, hrest, hsent, ?_, ?_, ?_⟩
    · decide +kernel
    · decide +kernel
    · decide +kernel
  · obtain ⟨hreceipts, ⟨handled, hhandled⟩, hempty, -⟩ := lost_reports_amount_to_resync {}
      Modem.atHome (.empty 3 (Nat.succ_pos 2)) reports readings run
    have hrest : kept.1.receipts = [] := hempty (.inl (by decide))
    have hlarge : large.receipts = reports.map .message := hreceipts
    rcases hhandled with ⟨htaken, hlater⟩ | ⟨htaken, -⟩
    · have hall : handled.map Receipt.message = reports.map .message := by
        rw [← hlarge]
        exact ((htaken.trans (congrArg _ hrest)).trans (List.append_nil _)).symm
      obtain rfl : handled = reports :=
        (List.map_inj_right fun _ _ h => Receipt.message.inj h).1 hall
      exact ⟨hlarge, hrest, hlater, by decide +kernel⟩
    · cases hlarge.symm.trans htaken

end SimIdentity
