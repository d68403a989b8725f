import SimIdentity.Tracker.Observation

/-!
# The life of a tracker

A tracker begins by taking over everything its modem shows, is called whenever the modem
reports a change, and ends by being released. Each call first tries again what could not be
written before, then observes what the report is about, and at last announces what has become
due. So subscribers hear of a change at most once for each call, and the identity they get to
see with it is the one the call ends with.
-/

namespace SimIdentity.Run

variable {σ : Type} [StringStore σ]

/-- Begins to track what a modem shows. -/
def start (cfg : Config) (modem : Modem) (store : σ) : Run σ :=
  let run : Run σ := { identity := { path := modem.path }, store }
  let run := run.observeAll cfg modem
  let run := if cfg.silentStart then run.silence else run.announce
  run.note .started

/-- Observes what a report is about. The standing with a network counts only while one is
attached. -/
def observe (cfg : Config) (modem : Modem) (change : Change) (run : Run σ) : Run σ :=
  match change with
  | .iccid => run.note (.iccidReported modem.iccid) |>.observeIccid cfg modem
  | .imsi => run.observeImsi cfg modem
  | .spn => run.observeCardName cfg modem
  | .network => run.observeNetwork cfg modem
  | .networkStatus => if run.attached then run.adoptHomeOperator cfg modem else run

/-- Handles a report of the modem. -/
def handle (cfg : Config) (modem : Modem) (change : Change) (run : Run σ) : Run σ :=
  run.retryWrites cfg |>.observe cfg modem change |>.announce

/-- Takes over everything the modem shows, for instance after reports were lost. -/
def resync (cfg : Config) (modem : Modem) (run : Run σ) : Run σ :=
  run.retryWrites cfg |>.observeAll cfg modem |>.announce

omit [StringStore σ] in
/-- Ends tracking. The stores are free for another tracker afterwards. -/
def release (run : Run σ) : Run σ := run.note .released

end SimIdentity.Run
