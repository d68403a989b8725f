import SimIdentity.Registry
import Mathlib.Data.List.Nodup

/-!
# Who is called

A program adds handlers to a registry and removes them again, in any order, and now and then a
signal is sent. Which handlers that signal reaches is a matter of the history of the registry alone:
those that were added for it, and since then neither removed nor swept away with all others.

`Registry.Exchange` is a request to a registry together with the answer, and `Registry.registered`
reads off a list of them which handlers are there in the end. It compares tickets, and so it says
what was meant only if no two handlers ever share one. A ticket is the number of an addition, so the
numbers that were given out are those from one on (`numbers_answerAll`), as long as there are enough
of them.

## What is proved

`handlers_are_called_while_registered`: over any requests, the handlers in a registry are the ones
that its history says, and so are the calls that come of the signals sent.
-/

namespace SimIdentity

namespace Registry

variable {m : Type → Type}

/-- What a registry can be asked for. -/
inductive Request (m : Type → Type) where
  /-- To add a handler. -/
  | add (signal : Signal) (action : Identity → m Unit)
  /-- To remove a handler. -/
  | remove (ticket : Ticket)
  /-- To remove the handlers of all tickets in a row of slots. -/
  | removeAll (slots : List (Option Ticket))
  /-- To remove all handlers. -/
  | clear
  /-- To call the handlers of a signal. -/
  | emit (news : Notification)

/-- Whether a handler is to be added. -/
def Request.adds : Request m → Bool
  | add _ _ => true
  | _ => false

/-- A request with its answer. -/
inductive Exchange (m : Type → Type) where
  /-- A handler was added, under the ticket it has. -/
  | added (handler : Handler m)
  /-- The handler of a ticket was removed, if it was found. -/
  | removed (ticket : Ticket) (found : Bool)
  /-- The handlers of the tickets in these slots were removed, and this is what became of the
  slots. -/
  | removedAll (slots emptied : List (Option Ticket))
  /-- All handlers were removed. -/
  | cleared
  /-- The handlers of a signal were called. -/
  | emitted (news : Notification)

/-- Answers a request. -/
def answer (request : Request m) (registry : Registry m) : Exchange m × Registry m :=
  match request with
  | .add signal action =>
    let (ticket, registry) := registry.add signal action
    (.added { ticket, signal, action }, registry)
  | .remove ticket =>
    let (found, registry) := registry.remove ticket
    (.removed ticket found, registry)
  | .removeAll slots =>
    let (emptied, registry) := registry.removeAll slots
    (.removedAll slots emptied, registry)
  | .clear => (.cleared, registry.clear)
  | .emit news => (.emitted news, registry)

/-- Answers requests one after the other. -/
def answerAll : List (Request m) → Registry m → List (Exchange m) × Registry m
  | [], registry => ([], registry)
  | request :: rest, registry =>
    let (exchange, registry) := registry.answer request
    let (exchanges, registry) := registry.answerAll rest
    (exchange :: exchanges, registry)

/-- What comes of a request besides the answer: handlers are called. -/
def effect [Monad m] (request : Request m) (registry : Registry m) : m Unit :=
  match request with
  | .emit news => registry.emit news
  | _ => pure ()

/-- What comes of requests besides the answers. -/
def effects [Monad m] : List (Request m) → Registry m → m Unit
  | [], _ => pure ()
  | request :: rest, registry => do
    registry.effect request
    (registry.answer request).2.effects rest

/-! ### What a history says -/

namespace Exchange

/-- The handler that was added. -/
def added? : Exchange m → Option (Handler m)
  | added handler => some handler
  | _ => none

/-- Whether the handler of that ticket was removed, or is gone with all others. -/
def drops (exchange : Exchange m) (ticket : Ticket) : Bool :=
  match exchange with
  | removed other _ => other = ticket
  | removedAll slots _ => some ticket ∈ slots
  | cleared => true
  | added _ => false
  | emitted _ => false

/-- Whether that signal was sent. -/
def emits (exchange : Exchange m) (signal : Signal) : Bool :=
  match exchange with
  | emitted news => news.signal = signal
  | _ => false

/-- The calls that were made, if these handlers were registered. -/
def calls (exchange : Exchange m) (handlers : List (Handler m)) : List (Handler m × Identity) :=
  match exchange with
  | emitted news => (handlers.filter (·.signal = news.signal)).map (·, news.identity)
  | _ => []

end Exchange

/-- The handlers that were added, the first one at the head. -/
def additions (history : List (Exchange m)) : List (Handler m) := history.filterMap (·.added?)

/-- The tickets that were given out, the first one at the head. -/
def tickets (history : List (Exchange m)) : List Ticket := (additions history).map (·.ticket)

/-- The handlers that are registered in the end: those that were added, in this order, and not
dropped since. -/
def registered : List (Exchange m) → List (Handler m)
  | [] => []
  | .added handler :: rest =>
    if rest.any (·.drops handler.ticket) then registered rest else handler :: registered rest
  | _ :: rest => registered rest

/-- The calls that are made after a history so far, the first one at the head: each time a signal
is sent, the handlers that are registered for it then, in the order in which they were added. -/
def callsAfter (before : List (Exchange m)) : List (Exchange m) → List (Handler m × Identity)
  | [] => []
  | exchange :: rest =>
    exchange.calls (registered before) ++ callsAfter (before ++ [exchange]) rest

/-- The calls that are made in a whole history. -/
def callsOf (history : List (Exchange m)) : List (Handler m × Identity) := callsAfter [] history

theorem tickets_append (history later : List (Exchange m)) :
    tickets (history ++ later) = tickets history ++ tickets later := by
  simp only [tickets, additions, List.filterMap_append, List.map_append]

variable {handler : Handler m} {ticket : Ticket} {exchange : Exchange m}
  {history before later after : List (Exchange m)}

/-- What an exchange does to the registered handlers: some are dropped, and the others keep their
order; a new one comes last. -/
theorem registered_append (history : List (Exchange m)) (exchange : Exchange m) :
    registered (history ++ [exchange]) =
      (registered history).filter (fun handler => !exchange.drops handler.ticket) ++
        exchange.added?.toList := by
  induction history with
  | nil => cases exchange <;> rfl
  | cons head rest ih =>
    cases head with
    | added handler =>
      simp only [List.cons_append, registered, List.any_append, List.any_cons, List.any_nil,
        Bool.or_false]
      by_cases hrest : rest.any (·.drops handler.ticket) = true
      · rw [if_pos (by rw [hrest]; rfl), if_pos hrest, ih]
      · rw [Bool.not_eq_true] at hrest
        rw [hrest, Bool.false_or, if_neg Bool.false_ne_true, List.filter_cons, ih]
        cases exchange.drops handler.ticket with
        | true => rfl
        | false => rfl
    | removed => exact ih
    | removedAll => exact ih
    | cleared => exact ih
    | emitted => exact ih

/-- The registered handlers are some of those that were added, in the same order. -/
theorem registered_sublist (history : List (Exchange m)) :
    (registered history).Sublist (additions history) := by
  induction history with
  | nil => exact .refl _
  | cons head rest ih =>
    cases head with
    | added other =>
      simp only [registered]
      split
      · exact ih.cons _
      · exact ih.cons_cons _
    | removed => exact ih
    | removedAll => exact ih
    | cleared => exact ih
    | emitted => exact ih

theorem ticket_mem_of_mem_registered (h : handler ∈ registered history) :
    handler.ticket ∈ tickets history :=
  List.mem_map_of_mem ((registered_sublist history).subset h)

theorem registered_subset_cons (exchange : Exchange m) (history : List (Exchange m)) :
    registered history ⊆ registered (exchange :: history) := by
  cases exchange with
  | added other =>
    simp only [registered]
    split
    · exact List.Subset.refl _
    · exact List.subset_cons_self _ _
  | _ => exact List.Subset.refl _

/-- They are those that were not dropped since they were added. -/
theorem mem_registered_iff : handler ∈ registered history ↔
    ∃ before after, history = before ++ .added handler :: after ∧
      ∀ exchange ∈ after, exchange.drops handler.ticket = false := by
  constructor
  · intro h
    induction history with
    | nil => exact absurd h List.not_mem_nil
    | cons head rest ih =>
      have hrest (h : handler ∈ registered rest) : ∃ before after,
          head :: rest = before ++ .added handler :: after ∧
            ∀ exchange ∈ after, exchange.drops handler.ticket = false := by
        obtain ⟨before, after, rfl, hafter⟩ := ih h
        exact ⟨head :: before, after, rfl, hafter⟩
      cases head with
      | added other =>
        simp only [registered] at h
        split at h
        case isTrue => exact hrest h
        case isFalse hkept =>
          rcases List.mem_cons.1 h with rfl | h
          · refine ⟨[], rest, rfl, fun exchange hexchange => ?_⟩
            exact Bool.eq_false_iff.2 fun hdrops =>
              hkept (List.any_eq_true.2 ⟨exchange, hexchange, hdrops⟩)
          · exact hrest h
      | removed => exact hrest h
      | removedAll => exact hrest h
      | cleared => exact hrest h
      | emitted => exact hrest h
  · rintro ⟨before, after, rfl, hafter⟩
    induction before with
    | nil =>
      have hkept : ¬ after.any (·.drops handler.ticket) = true := fun hany => by
        obtain ⟨exchange, hexchange, hdrops⟩ := List.any_eq_true.1 hany
        rw [hafter exchange hexchange] at hdrops
        cases hdrops
      simp only [List.nil_append, registered]
      rw [if_neg hkept]
      exact List.mem_cons_self
    | cons head rest ih => exact registered_subset_cons head _ ih

/-! ### The registry and its history -/

/-- Removing the handlers of several tickets keeps the others in their order. -/
theorem snd_removeAll (registry : Registry m) (slots : List (Option Ticket)) :
    (registry.removeAll slots).2 =
      { registry with
        handlers := registry.handlers.filter fun handler => !decide (some handler.ticket ∈ slots) } := by
  induction slots generalizing registry with
  | nil => simp [removeAll]
  | cons slot rest ih =>
    cases slot with
    | none =>
      refine (ih registry).trans ?_
      simp
    | some ticket =>
      refine (ih (registry.erase ticket)).trans ?_
      simp only [erase, List.filter_filter, List.mem_cons, Option.some.injEq]
      congr 1
      refine List.filter_congr fun handler _ => ?_
      by_cases hticket : handler.ticket = ticket <;> simp [hticket]

/-- Handlers that are gone cannot be removed again. -/
theorem removeAll_removeAll {slots again : List (Option Ticket)}
    (h : ∀ ticket, some ticket ∈ again → some ticket ∈ slots) {registry : Registry m} :
    (registry.removeAll slots).2.removeAll again =
      (again.map fun _ => none, (registry.removeAll slots).2) := by
  refine Prod.ext rfl ?_
  rw [snd_removeAll, snd_removeAll, List.filter_filter]
  congr 1
  refine List.filter_congr fun handler _ => ?_
  by_cases hagain : some handler.ticket ∈ again
  · simp [hagain, h _ hagain]
  · simp [hagain]

/-- A request does to the handlers what its exchange says. -/
theorem handlers_answer (request : Request m) (registry : Registry m) :
    (registry.answer request).2.handlers =
      registry.handlers.filter (fun handler => !(registry.answer request).1.drops handler.ticket) ++
        (registry.answer request).1.added?.toList := by
  cases request with
  | add signal action =>
    show registry.handlers ++ _ = registry.handlers.filter (fun _ => true) ++ _
    rw [List.filter_true]
    rfl
  | remove ticket =>
    show registry.handlers.filter (fun handler => decide (handler.ticket ≠ ticket)) =
      registry.handlers.filter (fun handler => !decide (ticket = handler.ticket)) ++ []
    rw [List.append_nil]
    refine List.filter_congr fun handler _ => ?_
    rw [← decide_not]
    exact decide_eq_decide.2 ne_comm
  | removeAll slots =>
    show (registry.removeAll slots).2.handlers = _ ++ []
    rw [snd_removeAll, List.append_nil]
    rfl
  | clear =>
    show [] = registry.handlers.filter (fun _ => false) ++ []
    rw [List.filter_false]
    rfl
  | emit news =>
    show registry.handlers = registry.handlers.filter (fun _ => true) ++ []
    rw [List.filter_true, List.append_nil]

/-- What a registry holds after a request is what its history says. -/
theorem handlers_answer_of_registered {registry : Registry m}
    (h : registry.handlers = registered before) (request : Request m) :
    (registry.answer request).2.handlers =
      registered (before ++ [(registry.answer request).1]) := by
  rw [handlers_answer, registered_append, h]

theorem handlers_answerAll (requests : List (Request m)) {registry : Registry m}
    (h : registry.handlers = registered before) :
    (registry.answerAll requests).2.handlers =
      registered (before ++ (registry.answerAll requests).1) := by
  induction requests generalizing registry before with
  | nil => exact h.trans (congrArg registered (List.append_nil before).symm)
  | cons request rest ih =>
    simp only [answerAll]
    rw [ih (handlers_answer_of_registered h request), List.append_assoc]
    rfl

section Calling

variable [Monad m] [LawfulMonad m]

/-- The calls that come of a request are those that its exchange says. -/
theorem effect_eq (request : Request m) (registry : Registry m) :
    registry.effect request =
      ((registry.answer request).1.calls registry.handlers).forM fun call =>
        call.1.action call.2 := by
  cases request with
  | emit news =>
    simp only [effect, emit, answer, Exchange.calls, List.forM_eq_forM, List.forM_map]
  | add => rfl
  | remove => rfl
  | removeAll => rfl
  | clear => rfl

theorem effects_eq (requests : List (Request m)) {registry : Registry m}
    (h : registry.handlers = registered before) :
    registry.effects requests =
      (callsAfter before (registry.answerAll requests).1).forM fun call =>
        call.1.action call.2 := by
  induction requests generalizing registry before with
  | nil => rfl
  | cons request rest ih =>
    have hrest := ih (handlers_answer_of_registered h request)
    simp only [effects, answerAll, callsAfter]
    rw [effect_eq, hrest, h]
    exact List.forM_append.symm

end Calling

/-! ### Tickets -/

theorem toNat_number_add {registry : Registry m} (h : registry.lastNumber.toNat + 1 < UInt32.size)
    (signal : Signal) (action : Identity → m Unit) :
    (registry.add signal action).1.number.toNat = registry.lastNumber.toNat + 1 := by
  show (max (registry.lastNumber + 1) 1).toNat = _
  rw [UInt32.toNat_max, UInt32.toNat_add]
  show max ((registry.lastNumber.toNat + 1) % UInt32.size) 1 = _
  rw [Nat.mod_eq_of_lt h]
  omega

/-- Where the numbers end, counting begins at one again. -/
example : ((∅ : Registry Id).add .spn fun _ => ()).1.number = 1 ∧
    (({ lastNumber := 0xffffffff } : Registry Id).add .spn fun _ => ()).1.number = 1 := by
  decide

/-- Only an addition uses up a number. -/
theorem lastNumber_answer {request : Request m} (h : request.adds = false) (registry : Registry m) :
    (registry.answer request).2.lastNumber = registry.lastNumber ∧
      (registry.answer request).1.added? = none := by
  cases request with
  | add => cases h
  | remove => exact ⟨rfl, rfl⟩
  | removeAll slots =>
    refine ⟨?_, rfl⟩
    show (registry.removeAll slots).2.lastNumber = _
    rw [snd_removeAll]
  | clear => exact ⟨rfl, rfl⟩
  | emit => exact ⟨rfl, rfl⟩

/-- The numbers that are given out are the ones that follow, as long as they last. -/
theorem numbers_answerAll (requests : List (Request m)) (registry : Registry m)
    (h : registry.lastNumber.toNat + requests.countP (·.adds) < UInt32.size) :
    (tickets (registry.answerAll requests).1).map (·.number.toNat) =
      List.range' (registry.lastNumber.toNat + 1) (requests.countP (·.adds)) := by
  induction requests generalizing registry with
  | nil => rfl
  | cons request rest ih =>
    simp only [answerAll, tickets, additions]
    cases hadds : request.adds with
    | false =>
      obtain ⟨hlast, hadded⟩ := lastNumber_answer hadds registry
      rw [List.countP_cons_of_neg (by simp [hadds])] at h ⊢
      rw [List.filterMap_cons_none hadded, ← hlast]
      exact ih _ (by rw [hlast]; exact h)
    | true =>
      cases request with
      | add signal action =>
        rw [List.countP_cons_of_pos (by simp [hadds])] at h ⊢
        have hnext : registry.lastNumber.toNat + 1 < UInt32.size := by omega
        have hnumber := toNat_number_add hnext signal action
        rw [List.range'_succ, ← hnumber]
        refine congrArg (_ :: ·) (ih _ ?_)
        show (registry.add signal action).1.number.toNat + _ < _
        rw [hnumber]
        omega
      | remove => cases hadds
      | removeAll => cases hadds
      | clear => cases hadds
      | emit => cases hadds

/-- No ticket is given out twice, as long as there are numbers. -/
theorem nodup_tickets_answerAll (requests : List (Request m))
    (h : requests.countP (·.adds) < UInt32.size) :
    (tickets ((∅ : Registry m).answerAll requests).1).Nodup := by
  refine List.Nodup.of_map (·.number.toNat) ?_
  have hzero : (∅ : Registry m).lastNumber.toNat + requests.countP (·.adds) < UInt32.size := by
    show 0 + _ < _
    rwa [Nat.zero_add]
  rw [numbers_answerAll requests ∅ hzero]
  exact List.nodup_range'

/-! ### How often a handler is called -/

/-- The calls of a history are those of its beginning, and then those of the rest. -/
theorem callsAfter_append (before history after : List (Exchange m)) :
    callsAfter before (history ++ after) =
      callsAfter before history ++ callsAfter (before ++ history) after := by
  induction history generalizing before with
  | nil => exact congrArg (callsAfter · after) (List.append_nil before).symm
  | cons exchange rest ih =>
    simp only [List.cons_append, callsAfter]
    rw [ih, List.append_assoc, List.append_assoc]
    rfl

/-- Whoever is called was added. -/
theorem ticket_mem_of_mem_callsAfter {call : Handler m × Identity}
    (h : call ∈ callsAfter before history) : call.1.ticket ∈ tickets (before ++ history) := by
  induction history generalizing before with
  | nil => exact absurd h List.not_mem_nil
  | cons exchange rest ih =>
    rcases List.mem_append.1 h with h | h
    · have hregistered : call.1 ∈ registered before := by
        cases exchange with
        | emitted news =>
          obtain ⟨handler, hhandler, rfl⟩ := List.mem_map.1 h
          exact List.mem_of_mem_filter hhandler
        | added => exact absurd h List.not_mem_nil
        | removed => exact absurd h List.not_mem_nil
        | removedAll => exact absurd h List.not_mem_nil
        | cleared => exact absurd h List.not_mem_nil
      rw [tickets_append]
      exact List.mem_append_left _ (ticket_mem_of_mem_registered hregistered)
    · have := ih h
      rwa [List.append_assoc] at this

/-- Under a ticket that was not given out, nobody is registered. -/
theorem filter_registered_of_not_mem (h : ticket ∉ tickets history) :
    (registered history).filter (·.ticket = ticket) = [] := by
  refine List.filter_eq_nil_iff.2 fun handler hhandler => ?_
  rw [decide_eq_true_eq]
  exact fun hticket => h (hticket ▸ ticket_mem_of_mem_registered hhandler)

/-- Under the ticket of a handler, it is registered until it is dropped, and nobody else is. -/
theorem filter_registered (hbefore : handler.ticket ∉ tickets before)
    (hlater : handler.ticket ∉ tickets later) :
    (registered (before ++ .added handler :: later)).filter (·.ticket = handler.ticket) =
      if later.any (·.drops handler.ticket) then [] else [handler] := by
  induction before with
  | nil =>
    have hnone := filter_registered_of_not_mem hlater
    simp only [List.nil_append, registered]
    split
    · exact hnone
    · rw [List.filter_cons_of_pos (by simp), hnone]
  | cons head rest ih =>
    cases head with
    | added other =>
      have hother : ¬ other.ticket = handler.ticket :=
        fun hticket => hbefore (hticket ▸ List.mem_cons_self)
      have hrest := ih fun hmem => hbefore (List.mem_cons_of_mem _ hmem)
      simp only [List.cons_append, registered]
      split
      · exact hrest
      · rw [List.filter_cons_of_neg (by simpa using hother)]
        exact hrest
    | removed => exact ih hbefore
    | removedAll => exact ih hbefore
    | cleared => exact ih hbefore
    | emitted => exact ih hbefore

/-- Of the calls for a signal, those under one ticket are the calls of the handlers that have it. -/
theorem countP_calls (exchange : Exchange m) (handlers : List (Handler m)) (ticket : Ticket) :
    (exchange.calls handlers).countP (·.1.ticket = ticket) =
      (handlers.filter (·.ticket = ticket)).countP (exchange.emits ·.signal) := by
  cases exchange with
  | emitted news =>
    simp only [Exchange.calls, Exchange.emits, List.countP_map, List.countP_filter]
    refine List.countP_congr fun handler _ => ?_
    simp only [Function.comp, Bool.and_eq_true, decide_eq_true_eq]
    exact ⟨fun h => ⟨h.2.symm, h.1⟩, fun h => ⟨h.2, h.1.symm⟩⟩
  | added => simp [Exchange.calls, Exchange.emits]
  | removed => simp [Exchange.calls, Exchange.emits]
  | removedAll => simp [Exchange.calls, Exchange.emits]
  | cleared => simp [Exchange.calls, Exchange.emits]

/-- Sending a signal drops no handler. -/
theorem Exchange.emits_of_drops (h : exchange.drops ticket = true) (signal : Signal) :
    exchange.emits signal = false := by
  cases exchange with
  | emitted => cases h
  | _ => rfl

/-- From then on, a handler is called once for each time its signal is sent, until it is
dropped. -/
theorem countP_callsAfter (hbefore : handler.ticket ∉ tickets before)
    (hlater : handler.ticket ∉ tickets (later ++ after)) :
    (callsAfter (before ++ .added handler :: later) after).countP
        (·.1.ticket = handler.ticket) =
      if later.any (·.drops handler.ticket) then 0
      else (after.takeWhile (!·.drops handler.ticket)).countP (·.emits handler.signal) := by
  induction after generalizing later with
  | nil => simp [callsAfter]
  | cons exchange rest ih =>
    have hhere : handler.ticket ∉ tickets later := fun hmem =>
      hlater (by rw [tickets_append]; exact List.mem_append_left _ hmem)
    have hrest := @ih (later ++ [exchange]) (by rw [List.append_assoc]; exact hlater)
    rw [List.any_append, List.any_cons, List.any_nil, Bool.or_false] at hrest
    have hnext : before ++ .added handler :: later ++ [exchange] =
        before ++ .added handler :: (later ++ [exchange]) := List.append_assoc _ _ _
    simp only [callsAfter]
    rw [List.countP_append, countP_calls, filter_registered hbefore hhere, hnext, hrest]
    cases hdropped : later.any (·.drops handler.ticket) with
    | true => rfl
    | false =>
      cases hdrops : exchange.drops handler.ticket with
      | true =>
        rw [List.takeWhile_cons_of_neg (by simp [hdrops])]
        simp [Exchange.emits_of_drops hdrops]
      | false =>
        rw [List.takeWhile_cons_of_pos (by simp [hdrops]), List.countP_cons]
        simp [List.countP_cons, Nat.add_comm]

/-- In the whole history, a handler is called once for each time its signal is sent between the
moment it is added and the moment it is dropped. -/
theorem countP_callsOf (hnodup : (tickets (before ++ .added handler :: after)).Nodup) :
    (callsOf (before ++ .added handler :: after)).countP (·.1.ticket = handler.ticket) =
      (after.takeWhile (!·.drops handler.ticket)).countP (·.emits handler.signal) := by
  have hsplit : tickets (before ++ .added handler :: after) =
      tickets before ++ handler.ticket :: tickets after := tickets_append _ _
  rw [hsplit] at hnodup
  have hbefore : handler.ticket ∉ tickets before := fun hmem =>
    (List.nodup_append.1 hnodup).2.2 _ hmem _ List.mem_cons_self rfl
  have hafter : handler.ticket ∉ tickets after :=
    (List.nodup_cons.1 (List.nodup_append.1 hnodup).2.1).1
  have hearly : (callsAfter [] before).countP (·.1.ticket = handler.ticket) = 0 := by
    refine List.countP_eq_zero.2 fun call hcall => ?_
    rw [decide_eq_true_eq]
    exact fun hticket => hbefore (hticket ▸ ticket_mem_of_mem_callsAfter hcall)
  have hlate := @countP_callsAfter _ handler before [] after hbefore hafter
  have hcalls : callsOf (before ++ .added handler :: after) =
      callsAfter [] before ++ callsAfter (before ++ [.added handler]) after := by
    rw [callsOf, callsAfter_append]
    rfl
  rw [hcalls, List.countP_append, hearly, Nat.zero_add]
  exact hlate

end Registry

open Registry

/-- **Handlers are called while they are registered.** Let a registry be asked for anything, in any
order, with fewer additions than there are words of 32 bits. All tickets that it gives out are
different. The handlers in it are those that were added and neither removed nor swept away since, in
the order in which they were added, and they are what is counted. The calls it makes are, for each
signal that is sent, one of each handler that is registered for it then, in this order, and no
others; so a handler is called as often as its signal is sent while it is registered. A ticket is
found exactly if a handler is registered under it. Removing a row of tickets, some of which may be
missing, repeated or not registered any more, removes their handlers, keeps the others in their
order and empties all slots, and to do it again changes nothing. -/
theorem handlers_are_called_while_registered {m : Type → Type} [Monad m] [LawfulMonad m]
    (requests : List (Request m)) (hfew : requests.countP (·.adds) < UInt32.size) :
    let history := ((∅ : Registry m).answerAll requests).1
    let registry := ((∅ : Registry m).answerAll requests).2
    (tickets history).Nodup ∧
      registry.handlers = registered history ∧
      (registered history).Sublist (additions history) ∧
      (∀ handler, handler ∈ registered history ↔
        ∃ before after, history = before ++ .added handler :: after ∧
          ∀ exchange ∈ after, exchange.drops handler.ticket = false) ∧
      (∅ : Registry m).effects requests =
        (callsOf history).forM (fun call => call.1.action call.2) ∧
      (∀ before handler after, history = before ++ .added handler :: after →
        (callsOf history).countP (·.1.ticket = handler.ticket) =
          (after.takeWhile (!·.drops handler.ticket)).countP (·.emits handler.signal)) ∧
      (∀ ticket, (registry.remove ticket).1 = true ↔
        ∃ handler ∈ registered history, handler.ticket = ticket) ∧
      (∀ slots, ∃ fewer : Registry m,
        registry.removeAll slots = (slots.map fun _ => none, fewer) ∧
          fewer.handlers =
            (registered history).filter (fun handler => some handler.ticket ∉ slots) ∧
          fewer.removeAll slots = (slots.map fun _ => none, fewer) ∧
          fewer.removeAll (slots.map fun _ => none) = (slots.map fun _ => none, fewer)) ∧
      registry.size = (registered history).length ∧
      (registry.isEmpty = true ↔ registered history = []) := by
  intro history registry
  have hnodup : (tickets history).Nodup := nodup_tickets_answerAll requests hfew
  have hempty : (∅ : Registry m).handlers = registered [] := rfl
  have hhandlers : registry.handlers = registered history := handlers_answerAll requests hempty
  refine ⟨hnodup, hhandlers, registered_sublist history, fun handler => mem_registered_iff,
    effects_eq requests hempty, fun before handler after hhistory => ?_, fun ticket => ?_,
    fun slots => ⟨(registry.removeAll slots).2, rfl, ?_, ?_, ?_⟩, ?_, ?_⟩
  · rw [hhistory] at hnodup ⊢
    exact countP_callsOf hnodup
  · simp only [remove, contains, hhandlers, List.any_eq_true, decide_eq_true_eq]
  · rw [snd_removeAll, hhandlers]
    exact List.filter_congr fun handler _ => (decide_not).symm
  · exact removeAll_removeAll fun _ => id
  · have hmap : (slots.map fun _ => (none : Option Ticket)).map (fun _ => (none : Option Ticket)) =
        slots.map fun _ => none := List.map_map
    rw [removeAll_removeAll (by simp), hmap]
  · rw [size, hhandlers]
  · rw [isEmpty, hhandlers, List.isEmpty_iff]

/-- Of three handlers of a signal one is removed, in a row with an empty slot, a repeated ticket and
an unknown one, and the others are cleared away at the end. -/
theorem calls_of_three_handlers :
    let say (word : String) : Identity → StateM (List String) Unit :=
      fun _ => modify (· ++ [word])
    let call (signal : Signal) : Request (StateM (List String)) :=
      .emit { signal, identity := { path := "/ril_0" } }
    let requests : List (Request (StateM (List String))) :=
      [.add .spn (say "first"), .add .spn (say "second"), call .spn,
        .removeAll [some ⟨1⟩, none, some ⟨1⟩, some ⟨7⟩], .add .spn (say "third"), call .spn,
        call .imsi, .clear, call .spn]
    let history := ((∅ : Registry (StateM (List String))).answerAll requests).1
    requests.countP (·.adds) < UInt32.size ∧ (tickets history).Nodup ∧
      (tickets history).map (·.number) = [1, 2, 3] ∧
      (((∅ : Registry (StateM (List String))).effects requests).run []).2 =
        ["first", "second", "second", "third"] ∧
      registered history = [] := by
  intro say call requests history
  have hfew : requests.countP (·.adds) < UInt32.size := by decide
  obtain ⟨hnodup, hhandlers, -, -, heffects, -⟩ := handlers_are_called_while_registered requests hfew
  refine ⟨hfew, hnodup, rfl, ?_, hhandlers.symm⟩
  rw [heffects]
  rfl

end SimIdentity
