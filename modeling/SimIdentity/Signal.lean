import SimIdentity.Identity

/-!
# Change signals

Subscribers learn that a part of the public identity changed by a signal without payload, and
read the new value from the identity that comes with it. While an entry point runs, signals
only become *due*: they are collected in a `SignalSet`, so that a part that changes twice is
reported once, and `SignalSet.toList` fixes the order in which they go out.
-/

namespace SimIdentity

/-- Which part of the public identity changed. -/
inductive Signal where
  /-- The serial number of the card. -/
  | iccid
  /-- The identity of the subscription. -/
  | imsi
  /-- The provider name to show. -/
  | spn
  deriving DecidableEq, Repr

namespace Signal

/-- All signals in the order in which they are sent. -/
def all : List Signal := [iccid, imsi, spn]

/-- The position of the signal in that order. -/
def number : Signal → Nat
  | iccid => 0
  | imsi => 1
  | spn => 2

end Signal

/-- A set of signals. -/
structure SignalSet where
  /-- Whether the serial number's signal is in the set. -/
  iccid : Bool := false
  /-- Whether the subscription's signal is in the set. -/
  imsi : Bool := false
  /-- Whether the provider name's signal is in the set. -/
  spn : Bool := false
  deriving DecidableEq, Repr

namespace SignalSet

instance : EmptyCollection SignalSet := ⟨{}⟩

/-- Whether the signal is in the set. -/
def contains (due : SignalSet) : Signal → Bool
  | .iccid => due.iccid
  | .imsi => due.imsi
  | .spn => due.spn

instance : Membership Signal SignalSet where
  mem due signal := due.contains signal = true

instance (signal : Signal) (due : SignalSet) : Decidable (signal ∈ due) :=
  inferInstanceAs (Decidable (due.contains signal = true))

/-- The set with one signal more. -/
def insert (due : SignalSet) : Signal → SignalSet
  | .iccid => { due with iccid := true }
  | .imsi => { due with imsi := true }
  | .spn => { due with spn := true }

/-- The signals of the set in the order in which they are sent. -/
def toList (due : SignalSet) : List Signal :=
  Signal.all.filter due.contains

@[simp] theorem not_mem_empty (signal : Signal) : signal ∉ (∅ : SignalSet) := by
  cases signal <;> exact Bool.false_ne_true

@[simp] theorem mem_insert {due : SignalSet} {signal new : Signal} :
    signal ∈ due.insert new ↔ signal = new ∨ signal ∈ due := by
  cases signal <;> cases new <;> simp [insert, Membership.mem, contains]

@[simp] theorem mem_toList {due : SignalSet} {signal : Signal} :
    signal ∈ due.toList ↔ signal ∈ due := by
  have h : signal ∈ Signal.all := by cases signal <;> simp [Signal.all]
  simp only [toList, List.mem_filter, h, true_and]
  rfl

/-- Sets of the same signals are equal. -/
theorem eq_of_mem_iff {due other : SignalSet} (h : ∀ signal, signal ∈ due ↔ signal ∈ other) :
    due = other := by
  have hiccid : due.iccid = other.iccid := Bool.eq_iff_iff.2 (h .iccid)
  have himsi : due.imsi = other.imsi := Bool.eq_iff_iff.2 (h .imsi)
  have hspn : due.spn = other.spn := Bool.eq_iff_iff.2 (h .spn)
  cases due
  cases other
  subst hiccid himsi hspn
  rfl

end SignalSet

/-- A signal as it is delivered, with the identity to read from. -/
structure Notification where
  /-- What changed. -/
  signal : Signal
  /-- The identity after the change. -/
  identity : Identity
  deriving DecidableEq, Repr

end SimIdentity
