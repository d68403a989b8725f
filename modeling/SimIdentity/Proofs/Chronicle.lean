import SimIdentity.Log
import SimIdentity.Proofs.Failure
import SimIdentity.Proofs.Update
import SimIdentity.Tracker.Subscription

/-!
# What the log tells of the stores

Of all that a tracker does with its stores, two kinds of accesses matter to whoever reads the log:
those that went wrong, and those that changed something. A line that warns is about one of the first
kind, a line that begins with `Updated` about one of the second.

A line is not printed when an access is made, but when the trail says so, and the trail says what
came of looking up or saving as a whole. So the two lists are not compared directly, but through the
trail: an outcome on it, the access that led to it and the line that tells of it make up a `Report`,
and `Report.Fits` lists the four kinds there are. The accesses that matter, the outcomes and the
lines are the columns of one table of reports (`Tallies`). Tables are put together by appending them
(`Tallies.append`), so each access of the cache needs to be looked at once only.

A handle that is given back without changes is a condition here. Over a memory this cannot fail, and
if it did, nothing would tell of it.

## What is proved

`log_accounts_for_storage`: over a memory that fails at arbitrary moments, and that others may
change as they like between two calls, the log tells of the accesses that matter, of each of them
once and in their order, and of no other.
-/

namespace SimIdentity

/-! ### What matters -/

/-- The access went wrong, or it kept changes. -/
def Access.matters (access : Access) : Bool := !access.succeeded || access.commits

/-- A store could not be acquired or changes not be kept, or a text was written. -/
def Event.isOutcome : Event → Bool
  | .lookedUp _ .unreadable => true
  | .saved _ _ .unchanged => false
  | .saved _ _ _ => true
  | _ => false

namespace LogLine

/-- A line about a modem. -/
def about (path : String) (level : Level) (message : String) : LogLine where
  level := level
  text := "[" ++ path ++ "] " ++ message

/-- The line warns, or it tells that something about the modem was updated. -/
def IsReport (path : String) (line : LogLine) : Prop :=
  line.level = .warn ∨
    line.level = .debug ∧ ("[" ++ path ++ "] " ++ "Updated ").toList <+: line.text.toList

instance (path : String) (line : LogLine) : Decidable (line.IsReport path) :=
  inferInstanceAs (Decidable (_ ∨ _))

theorem isReport_about {path : String} {level : Level} {message : String} :
    (about path level message).IsReport path ↔
      level = .warn ∨ level = .debug ∧ "Updated ".toList <+: message.toList := by
  unfold IsReport about
  rw [String.toList_append, String.toList_append (t := message), List.prefix_append_right_inj]

end LogLine

/-- No other message warns, or begins like one about an update. -/
theorem Event.message?_of_not_isOutcome {cfg : Config} {event : Event} {level : Level}
    {message : String} (h : event.isOutcome = false)
    (hmessage : event.message? cfg = some (level, message)) :
    ¬ (level = .warn ∨ level = .debug ∧ "Updated ".toList <+: message.toList) := by
  cases event with
  | lookedUp entry outcome =>
    cases outcome with
    | found text => cases hmessage
    | unreadable => cases h
    | missing =>
      cases entry with
      | imsiOf iccid => cases hmessage; simp
      | nameOf imsi => cases hmessage; simp
  | saved entry text outcome =>
    cases outcome with
    | unchanged => cases hmessage
    | written => cases h
    | unopened => cases h
    | uncommitted => cases h
  | publicNameChanged name =>
    cases name with
    | none => cases hmessage; simp
    | some name => cases hmessage; simp
  | _ => cases hmessage; simp

/-- The three traces that an outcome leaves. -/
structure Report where
  /-- The access that decided. -/
  access : Access
  /-- What it came to. -/
  event : Event
  /-- What the log says. -/
  line : LogLine
  deriving DecidableEq, Repr

/-- The traces belong together. Each of the four kinds names the store that it is about. -/
inductive Report.Fits (cfg : Config) (path : String) : Report → Prop where
  /-- A store could not be acquired to look an entry up. -/
  | unreadable (entry : Cache.Entry) :
      Fits cfg path
        { access := .acquired (entry.address cfg).store none
          event := .lookedUp entry .unreadable
          line := .about path .warn ("Unable to read " ++ entry.label cfg) }
  /-- A store could not be acquired to save an entry. -/
  | unopened (entry : Cache.Entry) (text : String) :
      Fits cfg path
        { access := .acquired (entry.address cfg).store none
          event := .saved entry text .unopened
          line := .about path .warn ("Unable to open " ++ (entry.address cfg).store.name) }
  /-- The changes to a store could not be kept. -/
  | uncommitted (entry : Cache.Entry) (text : String) (handle : Nat) :
      Fits cfg path
        { access := .released handle (entry.address cfg).store true false
          event := .saved entry text .uncommitted
          line := .about path .warn ("Unable to write " ++ (entry.address cfg).store.name) }
  /-- The changes to a store were kept. -/
  | written (entry : Cache.Entry) (text : String) (handle : Nat) :
      Fits cfg path
        { access := .released handle (entry.address cfg).store true true
          event := .saved entry text .written
          line := .about path .debug ("Updated " ++ entry.label cfg) }

/-! ### The table of reports -/

/-- The accesses that matter, the outcomes on the trail and the lines that tell of such are the
columns of one table. -/
def Tallies (cfg : Config) (path : String) (accesses : List Access) (trail : List TrailEntry) :
    Prop :=
  ∃ reports : List Report, (∀ report ∈ reports, report.Fits cfg path) ∧
    reports.map (·.access) = accesses.filter (·.matters) ∧
    reports.map (·.event) = (trail.map (·.event)).filter (·.isOutcome) ∧
    reports.map (·.line) = (logOf cfg trail).filter fun line => line.IsReport path

namespace Tallies

variable {cfg : Config} {path : String} {accesses : List Access} {access : Access}
  {trail : List TrailEntry} {moment : TrailEntry}

theorem nil (cfg : Config) (path : String) : Tallies cfg path [] [] :=
  ⟨[], by simp, rfl, rfl, rfl⟩

/-- Nothing is told of an access that does not matter. -/
theorem quiet (h : Tallies cfg path accesses trail) (haccess : access.matters = false) :
    Tallies cfg path (accesses ++ [access]) trail := by
  obtain ⟨reports, hfits, haccesses, hcolumns⟩ := h
  refine ⟨reports, hfits, ?_, hcolumns⟩
  rw [haccesses, List.filter_append, List.filter_cons_of_neg (by simp [haccess]), List.filter_nil,
    List.append_nil]

/-- What is told beside the outcomes is no report. -/
theorem remark (h : Tallies cfg path accesses trail) (hpath : moment.context.identity.path = path)
    (hevent : moment.event.isOutcome = false) : Tallies cfg path accesses (trail ++ [moment]) := by
  obtain ⟨reports, hfits, haccesses, hevents, hlines⟩ := h
  refine ⟨reports, hfits, haccesses, ?_, ?_⟩
  · simp [hevents, hevent]
  · rw [hlines, logOf, logOf, List.filterMap_append, List.filter_append]
    cases hmessage : moment.event.message? cfg with
    | none => simp [TrailEntry.line?, hmessage]
    | some told =>
      obtain ⟨level, message⟩ := told
      have hline : moment.line? cfg = some (.about path level message) := by
        rw [TrailEntry.line?, hmessage, hpath]
        rfl
      have hquiet : ¬ (LogLine.about path level message).IsReport path := by
        rw [LogLine.isReport_about]
        exact Event.message?_of_not_isOutcome hevent hmessage
      simp [hline, hquiet]

/-- One line is told of an access that matters, with its outcome. -/
theorem report (h : Tallies cfg path accesses trail) {report : Report}
    (hfits : report.Fits cfg path) (haccess : report.access = access)
    (hpath : moment.context.identity.path = path) (hevent : moment.event = report.event) :
    Tallies cfg path (accesses ++ [access]) (trail ++ [moment]) := by
  have hmatters : access.matters = true := by
    rw [← haccess]
    cases hfits <;> rfl
  have houtcome : report.event.isOutcome = true := by cases hfits <;> rfl
  have hline : moment.line? cfg = some report.line := by
    rw [TrailEntry.line?, hevent, hpath]
    cases hfits with
    | unreadable entry => cases entry <;> rfl
    | unopened => rfl
    | uncommitted => rfl
    | written => rfl
  have htold : report.line.IsReport path := by
    cases hfits with
    | written => exact LogLine.isReport_about.2 (.inr ⟨rfl, by simp⟩)
    | _ => exact .inl rfl
  obtain ⟨reports, hall, haccesses, hevents, hlines⟩ := h
  refine ⟨reports ++ [report], ?_, ?_, ?_, ?_⟩
  · intro other hother
    rcases List.mem_append.1 hother with hother | hother
    · exact hall other hother
    · rwa [List.mem_singleton.1 hother]
  · simp [haccesses, haccess, hmatters]
  · simp [hevents, hevent, houtcome]
  · simp [hlines, logOf, hline, htold]

end Tallies

/-! ### One access of the cache -/

/-- To give a handle back without changes cannot fail. -/
theorem UnreliableStore.isOk_of_discard {name : StoreName} {handle : VolatileStore.Snapshot}
    {store closed : UnreliableStore} {result : Except VolatileStore.Error Unit}
    (h : StringStore.release name handle false store = (result, closed)) : result.isOk = true := by
  cases h
  rfl

namespace Tallies

variable {cfg : Config} {path : String} {store later : Recorded UnreliableStore} {access : Access}
  {trail : List TrailEntry} {moment : TrailEntry}

theorem accesses_of_steps {before after : UnreliableStore}
    (hsteps : later.steps = store.steps ++ [⟨access, before, after⟩]) :
    later.accesses = store.accesses ++ [access] := by
  simp [Recorded.accesses, hsteps]

theorem lookup (h : Tallies cfg path store.accesses trail) {entry : Cache.Entry}
    (hpath : moment.context.identity.path = path)
    (hevent : moment.event = .lookedUp entry (Cache.lookup cfg entry store).1) :
    Tallies cfg path (Cache.lookup cfg entry store).2.accesses (trail ++ [moment]) := by
  rcases Recorded.acquire_cases (entry.address cfg).store store with
    ⟨error, opened, hacquire, -, hopened, -⟩ | ⟨handle, opened, hacquire, -, -, hopened, -⟩
  · rw [Cache.lookup_of_refused hacquire] at hevent ⊢
    rw [accesses_of_steps hopened]
    exact h.report (.unreadable entry) rfl hpath hevent
  · obtain ⟨found, seen, hread, -, hseen, -⟩ :=
      Recorded.read_eq handle (entry.address cfg).field opened
    obtain ⟨result, closed, hrelease, hinner, hclosed, -⟩ :=
      Recorded.release_eq (entry.address cfg).store handle false seen
    have hok := UnreliableStore.isOk_of_discard hinner
    rw [Cache.lookup_of_acquired hacquire hread hrelease] at hevent ⊢
    rw [accesses_of_steps hclosed, accesses_of_steps hseen, accesses_of_steps hopened, hok]
    refine (((h.quiet rfl).quiet rfl).quiet rfl).remark hpath ?_
    rw [hevent]
    cases found with
    | none => rfl
    | some text => rfl

theorem save (h : Tallies cfg path store.accesses trail) {entry : Cache.Entry} {text : String}
    (hpath : moment.context.identity.path = path)
    (hevent : moment.event = .saved entry text (Cache.save cfg entry text store).1) :
    Tallies cfg path (Cache.save cfg entry text store).2.accesses (trail ++ [moment]) := by
  rcases Recorded.acquire_cases (entry.address cfg).store store with
    ⟨error, opened, hacquire, -, hopened, -⟩ | ⟨handle, opened, hacquire, -, -, hopened, -⟩
  · rw [Cache.save_of_refused hacquire] at hevent ⊢
    rw [accesses_of_steps hopened]
    exact h.report (.unopened entry text) rfl hpath hevent
  obtain ⟨found, seen, hread, -, hseen, -⟩ :=
    Recorded.read_eq handle (entry.address cfg).field opened
  by_cases hfound : found = some text
  · subst hfound
    obtain ⟨result, closed, hrelease, hinner, hclosed, -⟩ :=
      Recorded.release_eq (entry.address cfg).store handle false seen
    have hok := UnreliableStore.isOk_of_discard hinner
    rw [Cache.save_of_held hacquire hread hrelease] at hevent ⊢
    rw [accesses_of_steps hclosed, accesses_of_steps hseen, accesses_of_steps hopened, hok]
    refine (((h.quiet rfl).quiet rfl).quiet rfl).remark hpath ?_
    rw [hevent]
    rfl
  · obtain ⟨written, changed, hwrite, -, -, hchanged, -⟩ :=
      Recorded.write_eq handle (entry.address cfg).field text seen
    obtain ⟨result, closed, hrelease, -, hclosed, -⟩ :=
      Recorded.release_eq (entry.address cfg).store written true changed
    rw [Cache.save_of_not_held hacquire hread hfound hwrite hrelease] at hevent ⊢
    rw [accesses_of_steps hclosed, accesses_of_steps hchanged, accesses_of_steps hseen,
      accesses_of_steps hopened]
    have hprepared : Tallies cfg path
        (store.accesses ++ [.acquired (entry.address cfg).store (some store.handles)] ++
          [.read handle.number (entry.address cfg).field found] ++
          [.wrote handle.number (entry.address cfg).field text]) trail :=
      ((h.quiet rfl).quiet rfl).quiet rfl
    cases hok : result.isOk with
    | true =>
      rw [hok] at hevent
      exact hprepared.report (.written entry text written.number) rfl hpath hevent
    | false =>
      rw [hok] at hevent
      exact hprepared.report (.uncommitted entry text written.number) rfl hpath hevent

end Tallies

/-! ### A tracker at work -/

theorem Event.IsRemark.isOutcome_eq {event : Event} (h : event.IsRemark) :
    event.isOutcome = false := by
  cases event with
  | lookedUp => exact h.elim
  | saved => exact h.elim
  | _ => rfl

/-- The tracker is that of the modem, and its log tells of the accesses that matter. -/
structure Run.Accounts (cfg : Config) (path : String) (run : Run (Recorded UnreliableStore)) :
    Prop where
  /-- The modem is the one of the log. -/
  path_eq : run.identity.path = path
  /-- The accesses, the trail and the log fit together. -/
  tallies : Tallies cfg path run.store.accesses run.trail

namespace Run.Accounts

variable {cfg : Config} {path : String} {run later : Run (Recorded UnreliableStore)}

theorem note (h : run.Accounts cfg path) (event : Event) (hevent : event.isOutcome = false) :
    (run.note event).Accounts cfg path where
  path_eq := h.path_eq
  tallies := h.tallies.remark h.path_eq hevent

theorem saves (h : run.Accounts cfg path) (hsaves : run.Saves cfg later) :
    later.Accounts cfg path := by
  cases hsaves with
  | none => exact h
  | save entry text _ _ _ => exact ⟨h.path_eq, h.tallies.save h.path_eq rfl⟩

theorem works (h : run.Accounts cfg path) (hworks : Works cfg run later) :
    later.Accounts cfg path := by
  induction hworks with
  | refl => exact h
  | note event hevent _ ih => exact ih.note event hevent.isOutcome_eq
  | learn knowledge hlearns _ ih => exact ⟨hlearns.path_eq.trans ih.path_eq, ih.tallies⟩
  | lookup entry _ _ ih => exact ⟨ih.path_eq, ih.tallies.lookup ih.path_eq rfl⟩
  | persistImsi _ ih => exact ih.saves (saves_persistImsi cfg _)
  | persistName _ ih => exact ih.saves (saves_persistName cfg _)

theorem retryWrites (h : run.Accounts cfg path) : (run.retryWrites cfg).Accounts cfg path := by
  cases hfailed : run.writeFailed with
  | false =>
    rw [retryWrites_of_not_failed hfailed]
    exact h
  | true =>
    have hretrying : ({ run with writeFailed := false }.note .retrying).Accounts cfg path :=
      ⟨h.path_eq, h.tallies.remark h.path_eq rfl⟩
    exact hretrying.works (works_retryWrites hfailed)

theorem perform (h : run.Accounts cfg path) (modem : Modem) (call : Call) :
    (run.perform cfg modem call).Accounts cfg path := by
  obtain ⟨later, hworks, hperform⟩ := perform_works cfg modem call run
  have hlater := h.retryWrites.works hworks
  rw [hperform]
  exact ⟨hlater.path_eq, hlater.tallies⟩

theorem handleReceipt (h : run.Accounts cfg path) (modem : Modem) (receipt : Receipt Change) :
    (run.handleReceipt cfg modem receipt).Accounts cfg path := by
  cases receipt with
  | message change => exact h.perform modem (.report change)
  | lagged count => exact (h.note (.lagged count) rfl).perform modem .resync

end Run.Accounts

theorem Run.accounts_start (cfg : Config) (modem : Modem) (store : UnreliableStore) :
    (start cfg modem (Recorded.ofStore store)).Accounts cfg modem.path := by
  have hblank : ({ identity := { path := modem.path }, store := Recorded.ofStore store } :
      Run (Recorded UnreliableStore)).Accounts cfg modem.path := ⟨rfl, .nil cfg modem.path⟩
  have hobserved := hblank.works (Works.refl.observeAll modem)
  obtain ⟨_, hstart⟩ := start_touches cfg modem (Recorded.ofStore store)
  rw [hstart]
  exact ⟨hobserved.path_eq, hobserved.tallies.remark hobserved.path_eq rfl⟩

/-! ### From the start to the end -/

/-- What can happen to a tracker over a memory. -/
inductive Occasion where
  /-- It is called. -/
  | call (modem : Modem) (call : Call)
  /-- It is given a receipt of its mailbox. -/
  | receipt (modem : Modem) (receipt : Receipt Change)
  /-- Somebody else changes what is in the memory, or when it fails. -/
  | meddling (memory : UnreliableStore)
  /-- It ends. -/
  | release

namespace Run

/-- What becomes of the run on an occasion. -/
def meet (cfg : Config) (occasion : Occasion) (run : Run (Recorded UnreliableStore)) :
    Run (Recorded UnreliableStore) :=
  match occasion with
  | .call modem call => run.perform cfg modem call
  | .receipt modem receipt => run.handleReceipt cfg modem receipt
  | .meddling memory => { run with store.inner := memory }
  | .release => run.release

/-- What becomes of it on several of them, the first one of the list first. -/
def meetAll (cfg : Config) (occasions : List Occasion) (run : Run (Recorded UnreliableStore)) :
    Run (Recorded UnreliableStore) :=
  occasions.foldl (fun run occasion => run.meet cfg occasion) run

variable {cfg : Config} {path : String} {run : Run (Recorded UnreliableStore)}

theorem Accounts.meet (h : run.Accounts cfg path) (occasion : Occasion) :
    (run.meet cfg occasion).Accounts cfg path := by
  cases occasion with
  | call modem call => exact h.perform modem call
  | receipt modem receipt => exact h.handleReceipt modem receipt
  | meddling memory => exact ⟨h.path_eq, h.tallies⟩
  | release => exact h.note .released rfl

theorem Accounts.meetAll (h : run.Accounts cfg path) (occasions : List Occasion) :
    (run.meetAll cfg occasions).Accounts cfg path := by
  induction occasions generalizing run with
  | nil => exact h
  | cons occasion rest ih => exact ih (h.meet occasion)

end Run

/-- **The log accounts for the storage.** Over a memory with any texts, that fails whenever it
likes, and that others may change between two calls, there is a table of reports from the start of a
tracker to its end. Its first column is the accesses that failed or kept changes, in their order,
its second one the outcomes of looking up and saving, and its third one the lines of the log that
warn, or that tell that something was updated. Each row is of one of four kinds: a store that could
not be acquired to look an entry up is said to be one that cannot be read, one that could not be
acquired to save an entry to be one that cannot be opened, one whose changes could not be kept to be
one that cannot be written, and one whose changes were kept to be updated. The line names the store
that the access was about. -/
theorem log_accounts_for_storage (cfg : Config) (modem : Modem) (store : UnreliableStore)
    (occasions : List Occasion) :
    let run := (Run.start cfg modem (Recorded.ofStore store)).meetAll cfg occasions
    ∃ reports : List Report, (∀ report ∈ reports, report.Fits cfg modem.path) ∧
      reports.map (·.access) = run.store.accesses.filter (·.matters) ∧
      reports.map (·.event) = (run.trail.map (·.event)).filter (·.isOutcome) ∧
      reports.map (·.line) = (logOf cfg run.trail).filter fun line => line.IsReport modem.path :=
  ((Run.accounts_start cfg modem store).meetAll occasions).tallies

/-- At home, over empty stores. The first store cannot be acquired to look the subscription up, and
the first commit of it is refused. The names of the operator and of the card are written, and when
everything is read again, so is the subscription. -/
example :
    let store : UnreliableStore := { openPlan := [false], commitPlan := [false] }
    let run := (Run.start {} Modem.atHome (Recorded.ofStore store)).meetAll {}
      [.call Modem.atHome .resync]
    ((logOf {} run.trail).filter fun line => line.IsReport "/ril_0").map (·.text) =
      ["[/ril_0] Unable to read iccidmap", "[/ril_0] Unable to write iccidmap",
        "[/ril_0] Updated 00101/cache", "[/ril_0] Updated 00101/cache",
        "[/ril_0] Updated iccidmap"] := by
  decide +kernel

end SimIdentity
