import SimIdentity.Tracker.Trail

/-!
# Trackers and runs

A tracker is its knowledge together with the stores it caches things in. A `Run` is a tracker
at work: besides the tracker it holds what the work has brought about so far, the trail and the
notifications sent. Everything a tracker does is a function from runs to runs, built from the
few steps of this module: to note an event, to queue a signal, to look up or save an entry of
the cache, and to announce what is due.
-/

namespace SimIdentity

/-- A tracker at rest. -/
structure Tracker (σ : Type) extends Knowledge where
  /-- The stores it caches things in. -/
  store : σ

/-- A tracker at work. -/
structure Run (σ : Type) extends Tracker σ where
  /-- What happened so far, the first event at the head. -/
  trail : List TrailEntry := []
  /-- The notifications sent so far, the first one at the head. -/
  sent : List Notification := []

/-- Puts a tracker to work. -/
def Tracker.resume {σ : Type} (tracker : Tracker σ) : Run σ := { toTracker := tracker }

namespace Run

variable {σ : Type}

/-- Adds an event to the trail. -/
def note (event : Event) (run : Run σ) : Run σ :=
  { run with trail := run.trail ++ [{ context := run.toKnowledge, event }] }

/-- Makes a signal due. -/
def queue (signal : Signal) (run : Run σ) : Run σ :=
  { run with due := run.due.insert signal }

/-- Sends the signals that are due, in their order, with the identity as it is now. -/
def announce (run : Run σ) : Run σ :=
  let news := run.due.toList.map fun signal => { signal, identity := run.identity }
  { run with sent := run.sent ++ news, due := ∅ }

/-- Drops the signals that are due. -/
def silence (run : Run σ) : Run σ := { run with due := ∅ }

variable [StringStore σ]

/-- Looks an entry of the cache up. -/
def lookup (cfg : Config) (entry : Cache.Entry) (run : Run σ) : Cache.Lookup × Run σ :=
  let (outcome, store) := Cache.lookup cfg entry run.store
  (outcome, { run with store }.note (.lookedUp entry outcome))

/-- Saves an entry of the cache. -/
def save (cfg : Config) (entry : Cache.Entry) (text : String) (run : Run σ) :
    Cache.Saving × Run σ :=
  let (outcome, store) := Cache.save cfg entry text run.store
  (outcome, { run with store }.note (.saved entry text outcome))

end Run

end SimIdentity
