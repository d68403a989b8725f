import SimIdentity.Tracker.Trail

/-!
# The log

The log of a tracker is its trail in words. `Event.message?` says what is told of an event and
how loud; of entries that were found in the cache, and of saves that had nothing to change,
nothing is told. Every line begins with the modem it is about.
-/

namespace SimIdentity

/-- How much a line matters. -/
inductive Level where
  | error
  | warn
  | info
  | debug
  | trace
  deriving DecidableEq, Repr

/-- A line of the log. -/
structure LogLine where
  /-- How much it matters. -/
  level : Level
  /-- What it says. -/
  text : String
  deriving DecidableEq, Repr

/-- How the log names the place of an entry. -/
def Cache.Entry.label (cfg : Config) : Cache.Entry → String
  | imsiOf _ => cfg.imsiStore
  | nameOf imsi => imsi ++ "/" ++ cfg.nameStore

/-- A name as the log shows it. -/
def quoted (name : String) : String := "\"" ++ name ++ "\""

/-- What the log says of an event. -/
def Event.message? (cfg : Config) : Event → Option (Level × String)
  | started => some (.info, "Tracking sim info")
  | released => some (.debug, "Released")
  | lagged count => some (.error, "Lagged " ++ toString count ++ " watch events")
  | retrying => some (.debug, "Retrying cache writes")
  | lookedUp _ (.found _) => none
  | lookedUp (.imsiOf iccid) .missing => some (.debug, "No imsi for iccid " ++ iccid)
  | lookedUp (.nameOf imsi) .missing => some (.debug, "No spn for imsi " ++ imsi)
  | lookedUp entry .unreadable => some (.warn, "Unable to read " ++ entry.label cfg)
  | saved _ _ .unchanged => none
  | saved entry _ .written => some (.debug, "Updated " ++ entry.label cfg)
  | saved entry _ .unopened => some (.warn, "Unable to open " ++ (entry.address cfg).store.name)
  | saved entry _ .uncommitted => some (.warn, "Unable to write " ++ (entry.address cfg).store.name)
  | iccidReported iccid => some (.trace, "Watch iccid " ++ iccid.getD "")
  | iccidLost => some (.debug, "No more iccid")
  | imsiReplaced old new => some (.debug, "Imsi changed " ++ old ++ " -> " ++ new)
  | imsiRecalled iccid imsi => some (.debug, "imsi[" ++ iccid ++ "] = " ++ imsi)
  | imsiAdopted imsi => some (.debug, "Imsi " ++ imsi)
  | nameOverruled name imsi =>
    some (.debug, "Replacing cached spn " ++ quoted name ++ " for " ++ imsi)
  | nameReplaced old new => some (.debug, "Spn changing " ++ old ++ " -> " ++ new)
  | nameRecalled imsi name => some (.debug, "spn[" ++ imsi ++ "] = " ++ quoted name)
  | nameAdopted name => some (.debug, "Cached spn " ++ quoted name)
  | cardNameAdopted name => some (.debug, "Sim spn " ++ quoted name)
  | fallbackChanged name => some (.debug, "Default spn " ++ quoted name.text)
  | publicNameChanged (some name) => some (.debug, "Public spn " ++ quoted name)
  | publicNameChanged none => some (.debug, "No public spn")
  | attached => some (.debug, "Netreg attached")
  | detached => some (.debug, "Netreg detached")
  | homeNetwork name => some (.debug, "Home network " ++ quoted name)

/-- The line of the log for an event. -/
def TrailEntry.line? (cfg : Config) (entry : TrailEntry) : Option LogLine :=
  (entry.event.message? cfg).map fun (level, message) =>
    { level, text := "[" ++ entry.context.identity.path ++ "] " ++ message }

/-- The log of a trail. -/
def logOf (cfg : Config) (trail : List TrailEntry) : List LogLine :=
  trail.filterMap (·.line? cfg)

end SimIdentity
