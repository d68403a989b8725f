import SimIdentity.Mailbox
import SimIdentity.Tracker.Lifecycle

/-!
# Reports through a mailbox

The reports of a modem may reach its tracker through a mailbox. If some of them were lost, the
tracker cannot tell which, and takes over everything the modem shows.
-/

namespace SimIdentity.Run

variable {σ : Type} [StringStore σ]

/-- Handles a receipt. -/
def handleReceipt (cfg : Config) (modem : Modem) (receipt : Receipt Change) (run : Run σ) :
    Run σ :=
  match receipt with
  | .message change => run.handle cfg modem change
  | .lagged count => run.note (.lagged count) |>.resync cfg modem

/-- Handles the next receipt, if there is one. -/
def handleNext? (cfg : Config) (modem : Modem) (box : Mailbox Change) (run : Run σ) :
    Option (Mailbox Change × Run σ) :=
  box.receive?.map fun (receipt, box) => (box, run.handleReceipt cfg modem receipt)

/-- Handles all receipts there are, and leaves the mailbox empty. -/
def drain (cfg : Config) (modem : Modem) (box : Mailbox Change) (run : Run σ) :
    Mailbox Change × Run σ :=
  match h : box.receive? with
  | none => (box, run)
  | some (receipt, rest) =>
    have : rest.receipts.length < box.receipts.length := by
      simp [Mailbox.receipts_of_receive? h]
    (run.handleReceipt cfg modem receipt).drain cfg modem rest
termination_by box.receipts.length

/-- Draining a mailbox handles its receipts one after the other. -/
theorem snd_drain (cfg : Config) (modem : Modem) (box : Mailbox Change) (run : Run σ) :
    (run.drain cfg modem box).2 =
      box.receipts.foldl (fun run receipt => run.handleReceipt cfg modem receipt) run := by
  fun_induction drain cfg modem box run with
  | case1 box run h => simp [Mailbox.receive?_eq_none_iff.1 h]
  | case2 box run receipt rest h _ ih => simp [Mailbox.receipts_of_receive? h, ih]

/-- Nothing is left to receive after draining. -/
theorem receipts_fst_drain (cfg : Config) (modem : Modem) (box : Mailbox Change)
    (run : Run σ) : (run.drain cfg modem box).1.receipts = [] := by
  fun_induction drain cfg modem box run with
  | case1 box run h => exact Mailbox.receive?_eq_none_iff.1 h
  | case2 box run receipt rest h _ ih => exact ih

end SimIdentity.Run
