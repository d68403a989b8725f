/-!
# Mailboxes

A mailbox hands messages on to one reader, who reads when it suits. It holds a limited number
of unread messages, at least one. A message that comes when it is full takes the place of the
oldest one. The reader is told once how many were lost, before the messages that are left.
-/

namespace SimIdentity

/-- What a reader gets. -/
inductive Receipt (α : Type) where
  /-- A message. -/
  | message (content : α)
  /-- So many messages were lost since the last receipt. -/
  | lagged (count : Nat)
  deriving DecidableEq, Repr

/-- Messages on their way to a reader. -/
structure Mailbox (α : Type) where
  /-- How many unread messages it can hold. -/
  capacity : Nat
  /-- The unread messages, the oldest one at the head. -/
  unread : List α := []
  /-- How many messages were lost since the last receipt. -/
  missed : Nat := 0
  /-- There is room for a message. -/
  capacity_pos : 0 < capacity
  /-- The unread messages fit. -/
  length_le : unread.length ≤ capacity := by simp

namespace Mailbox

variable {α : Type}

/-- An empty mailbox. -/
def empty (capacity : Nat) (h : 0 < capacity) : Mailbox α := { capacity, capacity_pos := h }

/-- Adds a message. If the mailbox is full, the oldest one is lost. -/
def publish (box : Mailbox α) (message : α) : Mailbox α :=
  if h : box.unread.length < box.capacity then
    { box with
      unread := box.unread ++ [message]
      length_le := by simp only [List.length_append, List.length_singleton]; omega }
  else
    { box with
      unread := box.unread.tail ++ [message]
      missed := box.missed + 1
      length_le := by
        have := box.length_le
        have := box.capacity_pos
        simp only [List.length_append, List.length_tail, List.length_singleton]
        omega }

/-- Adds messages, the first one of the list first. -/
def publishAll (box : Mailbox α) (messages : List α) : Mailbox α :=
  messages.foldl publish box

/-- Takes the next receipt out, if there is one. -/
def receive? (box : Mailbox α) : Option (Receipt α × Mailbox α) :=
  if 0 < box.missed then
    some (.lagged box.missed, { box with missed := 0 })
  else
    match h : box.unread with
    | [] => none
    | message :: rest =>
      some (.message message,
        { box with
          unread := rest
          length_le := by
            have := box.length_le
            simp only [h, List.length_cons] at this
            omega })

/-- The receipts the reader will get if nothing is added any more, in this order. -/
def receipts (box : Mailbox α) : List (Receipt α) :=
  (if 0 < box.missed then [.lagged box.missed] else []) ++ box.unread.map .message

/-- Takes all receipts out at once. -/
def receiveAll (box : Mailbox α) : List (Receipt α) × Mailbox α :=
  (box.receipts, { box with unread := [], missed := 0, length_le := Nat.zero_le _ })

/-- Receiving takes the receipts out one by one. -/
theorem receipts_of_receive? {box rest : Mailbox α} {receipt : Receipt α}
    (h : box.receive? = some (receipt, rest)) : box.receipts = receipt :: rest.receipts := by
  unfold receive? at h
  split at h
  case isTrue hmissed =>
    cases h
    simp [receipts, hmissed]
  case isFalse hmissed =>
    split at h
    · cases h
    case h_2 message unread hunread =>
      cases h
      simp [receipts, hmissed, hunread]

/-- Nothing is received exactly if there is no receipt. -/
theorem receive?_eq_none_iff {box : Mailbox α} : box.receive? = none ↔ box.receipts = [] := by
  unfold receive? receipts
  split
  case isTrue hmissed => simp
  case isFalse hmissed => split <;> simp_all

end Mailbox

end SimIdentity
