/-!
# Configuration

Where a tracker keeps what it learns about cards, and whether it may speak while it is being
set up.
-/

namespace SimIdentity

/-- The settings of a tracker. -/
structure Config where
  /-- The store that holds the last known provider name, one per subscription. -/
  nameStore : String := "cache"
  /-- The group of that name. -/
  nameGroup : String := "sim"
  /-- The field of that name. -/
  nameField : String := "spn"
  /-- The global store that maps serial numbers, as fields, to subscriptions. -/
  imsiStore : String := "iccidmap"
  /-- The group of that map. -/
  imsiGroup : String := "imsi"
  /-- Whether the signals that become due while a tracker is set up are dropped instead of
  sent. -/
  silentStart : Bool := true
  deriving DecidableEq, Repr

end SimIdentity
