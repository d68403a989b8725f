import SimIdentity.Signal

/-!
# Handlers

A registry calls handlers when a signal is sent. A handler is an action in a monad `m`, so what
it may do is up to the program. Handlers are called in the order in which they were added.

Adding a handler gives a ticket to remove it with. Tickets are numbered from one, by words of 32
bits. A number that was given out is not taken back when its handler goes, and comes again only
after all others have been given out.
-/

namespace SimIdentity

/-- What a handler is removed with. -/
structure Ticket where
  /-- The number of the ticket. -/
  number : UInt32
  deriving DecidableEq, Repr

/-- A handler of a signal. -/
structure Handler (m : Type → Type) where
  /-- The ticket it was added under. -/
  ticket : Ticket
  /-- The signal it is called for. -/
  signal : Signal
  /-- What it does, given the identity as it is now. -/
  action : Identity → m Unit

/-- The handlers of a program. -/
structure Registry (m : Type → Type) where
  /-- The number of the last ticket given out, zero if there was none. -/
  lastNumber : UInt32 := 0
  /-- The handlers, the one that was added first at the head. -/
  handlers : List (Handler m) := []

namespace Registry

variable {m : Type → Type}

instance : EmptyCollection (Registry m) := ⟨{}⟩

/-- Adds a handler. Where the numbers end, counting begins at one again. -/
def add (registry : Registry m) (signal : Signal) (action : Identity → m Unit) :
    Ticket × Registry m :=
  let ticket : Ticket := ⟨max (registry.lastNumber + 1) 1⟩
  (ticket,
    { lastNumber := ticket.number
      handlers := registry.handlers ++ [{ ticket, signal, action }] })

/-- Whether a handler is registered under the ticket. -/
def contains (registry : Registry m) (ticket : Ticket) : Bool :=
  registry.handlers.any (·.ticket = ticket)

/-- Removes a handler, if it is registered. -/
def erase (registry : Registry m) (ticket : Ticket) : Registry m :=
  { registry with handlers := registry.handlers.filter (·.ticket ≠ ticket) }

/-- Removes a handler, and tells whether it was registered. -/
def remove (registry : Registry m) (ticket : Ticket) : Bool × Registry m :=
  (registry.contains ticket, registry.erase ticket)

/-- Removes the handlers of all tickets in a row of slots, and empties the slots. Slots that are
empty are passed over, so clearing the same slots again does nothing. -/
def removeAll (registry : Registry m) (slots : List (Option Ticket)) :
    List (Option Ticket) × Registry m :=
  (slots.map fun _ => none, slots.foldl (fun r slot => slot.elim r r.erase) registry)

/-- Removes all handlers. -/
def clear (registry : Registry m) : Registry m := { registry with handlers := [] }

/-- How many handlers are registered. -/
def size (registry : Registry m) : Nat := registry.handlers.length

/-- Whether no handler is registered. -/
def isEmpty (registry : Registry m) : Bool := registry.handlers.isEmpty

variable [Monad m]

/-- Calls the handlers of a signal. -/
def emit (registry : Registry m) (news : Notification) : m Unit :=
  (registry.handlers.filter (·.signal = news.signal)).forM (·.action news.identity)

/-- Calls the handlers of several notifications, the first one of the list first. -/
def emitAll (registry : Registry m) (news : List Notification) : m Unit :=
  news.forM registry.emit

end Registry

end SimIdentity
