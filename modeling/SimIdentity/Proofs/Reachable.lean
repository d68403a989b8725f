import SimIdentity.Tracker.Lifecycle

/-!
# Runs of a tracker

Between its start and its end a tracker is called, any number of times: a report comes in, or
everything is read again. The modem may show something else at every call. `Reachable` are the
runs that come about like this, over stores that answer as they please.
-/

namespace SimIdentity

/-- What a tracker can be called for. -/
inductive Call where
  /-- The modem reported a change. -/
  | report (change : Change)
  /-- Everything is to be read again. -/
  | resync
  deriving DecidableEq, Repr

variable {σ : Type} [StringStore σ]

/-- Answers a call. -/
def Run.perform (cfg : Config) (modem : Modem) (call : Call) (run : Run σ) : Run σ :=
  match call with
  | .report change => run.handle cfg modem change
  | .resync => run.resync cfg modem

/-- Answers calls one after the other, each with what the modem shows at that time. -/
def Run.performAll (cfg : Config) (calls : List (Modem × Call)) (run : Run σ) : Run σ :=
  calls.foldl (fun run (modem, call) => run.perform cfg modem call) run

/-- The runs of a tracker, up to the end of a call. -/
inductive Reachable (cfg : Config) : Run σ → Prop where
  /-- A tracker that has just begun. -/
  | start (modem : Modem) (store : σ) : Reachable cfg (Run.start cfg modem store)
  /-- A tracker that has answered one call more. -/
  | perform {run : Run σ} (modem : Modem) (call : Call) :
      Reachable cfg run → Reachable cfg (run.perform cfg modem call)

namespace Run

omit [StringStore σ] in
/-- The same tracker, with another store in the place of its own. Whatever the old one refused, the
new one may be one that does not. -/
def withStore {τ : Type} (store : τ) (run : Run σ) : Run τ where
  toKnowledge := run.toKnowledge
  store := store
  trail := run.trail
  sent := run.sent

@[simp] theorem performAll_nil (cfg : Config) (run : Run σ) : run.performAll cfg [] = run := rfl

@[simp] theorem performAll_cons (cfg : Config) (modem : Modem) (call : Call)
    (calls : List (Modem × Call)) (run : Run σ) :
    run.performAll cfg ((modem, call) :: calls) =
      (run.perform cfg modem call).performAll cfg calls := rfl

theorem performAll_append (cfg : Config) (calls rest : List (Modem × Call)) (run : Run σ) :
    run.performAll cfg (calls ++ rest) = (run.performAll cfg calls).performAll cfg rest :=
  List.foldl_append

end Run

/-- A card with a name of its own, in its home network. -/
def Modem.atHome : Modem where
  path := "/ril_0"
  iccid := some "8901"
  imsi := some "00101"
  spn := some "Card"
  card := some { state := .ready, mcc := some "001", mnc := some "01" }
  network := some { status := .registered, mcc := some "001", mnc := some "01", name := some "Home" }

/-- Answering further calls leads from reachable runs to reachable runs. -/
theorem Reachable.performAll {cfg : Config} {run : Run σ} (h : Reachable cfg run)
    (calls : List (Modem × Call)) : Reachable cfg (run.performAll cfg calls) := by
  induction calls generalizing run with
  | nil => exact h
  | cons head rest ih => exact ih (h.perform head.1 head.2)

end SimIdentity
