import SimIdentity.Store.Recorded
import SimIdentity.Store.Volatile

/-!
# Private copies of a memory

Several handles to a memory may be out at the same time, to the same store or to different ones.
While they are, texts are inserted from outside, other handles are given back with their changes,
the memory is switched off and on again, and a handle may be given back to another store than it was
taken from.

What a handle shows and what the memory holds are then best told from the past. `held` and `shown`
do so: what is at an address is what was put there last, by an insertion or by a commit, and a
commit puts there what its handle shows. What a handle shows is what was last written through it, or
else what was held when it was acquired. Neither of them speaks of copies.

## What is proved

`handles_are_isolated`: whatever a memory is asked for, its handles show what the past says, its
texts are what the past says, and its counters count what they should.
-/

namespace SimIdentity.VolatileStore

/-- What a memory can be asked for. The handles that it gives out are numbered, in the order in which
they are acquired. -/
inductive Request where
  /-- To put a text in its place, from outside. -/
  | insert (address : Address) (text : String)
  /-- To be switched on or off. -/
  | setAvailable (available : Bool)
  /-- To give out a store. -/
  | acquire (store : StoreName)
  /-- To read a text. -/
  | read (handle : Nat) (field : FieldName)
  /-- To write a text. -/
  | write (handle : Nat) (field : FieldName) (text : String)
  /-- To take a handle back, and keep what was written through it if the flag is set. -/
  | release (handle : Nat) (store : StoreName) (commit : Bool)

/-- What happens to a memory. -/
inductive Moment where
  /-- A text was put in its place, from outside. -/
  | inserted (address : Address) (text : String)
  /-- The memory was switched on or off. -/
  | switched (available : Bool)
  /-- The memory was accessed. -/
  | accessed (access : Access)

/-- A memory in use. -/
structure Session where
  /-- The memory. -/
  memory : VolatileStore := ∅
  /-- The copies behind the handles that were given out, in their order. There is none any more
  behind a handle that was given back. -/
  copies : List (Option Snapshot) := []
  /-- What happened so far, the latest at the head. -/
  past : List Moment := []

namespace Session

/-- The copy behind a handle that is out. -/
def copy? (session : Session) (handle : Nat) : Option Snapshot := session.copies[handle]?.join

/-- Answers a request. Nothing can be asked of a handle that is not out. -/
def answer (request : Request) (session : Session) : Session :=
  match request with
  | .insert address text =>
    { session with
      memory := session.memory.insert address text
      past := .inserted address text :: session.past }
  | .setAvailable available =>
    { session with
      memory := session.memory.setAvailable available
      past := .switched available :: session.past }
  | .acquire name =>
    match session.memory.acquire name with
    | (.ok copy, memory) =>
      { memory
        copies := session.copies ++ [some copy]
        past := .accessed (.acquired name (some session.copies.length)) :: session.past }
    | (.error _, memory) =>
      { session with memory, past := .accessed (.acquired name none) :: session.past }
  | .read handle field =>
    match session.copy? handle with
    | some copy =>
      { session with past := .accessed (.read handle field (copy.get? field)) :: session.past }
    | none => session
  | .write handle field text =>
    match session.copy? handle with
    | some copy =>
      { session with
        copies := session.copies.set handle (some (copy.insert field text))
        past := .accessed (.wrote handle field text) :: session.past }
    | none => session
  | .release handle name commit =>
    match session.copy? handle with
    | some copy =>
      let (result, memory) := session.memory.release name copy commit
      { memory
        copies := session.copies.set handle none
        past := .accessed (.released handle name commit result.isOk) :: session.past }
    | none => session

/-- A memory that was asked for all this, one after the other, and was new before. -/
def ofRequests (requests : List Request) : Session :=
  requests.foldl (fun session request => session.answer request) {}

end Session

/-! ### What the past says -/

mutual

/-- What is held at an address: the text that was put there last, by an insertion or by a handle that
was given back with its changes. Such a handle puts what it shows in the place of the whole store. -/
def held : List Moment → Address → Option String
  | [], _ => none
  | .inserted place text :: past, address =>
    if place = address then some text else held past address
  | .accessed (.released handle name true true) :: past, address =>
    if name = address.store then shown past handle address.field else held past address
  | _ :: past, address => held past address

/-- What a handle shows for a field: the text that was last written through it, or else what was held
when it was acquired. -/
def shown : List Moment → Nat → FieldName → Option String
  | [], _, _ => none
  | .accessed (.wrote number place text) :: past, handle, field =>
    if number = handle ∧ place = field then some text else shown past handle field
  | .accessed (.acquired name (some number)) :: past, handle, field =>
    if number = handle then held past ⟨name, field⟩ else shown past handle field
  | _ :: past, handle, field => shown past handle field

end

/-- Whether the memory is switched on. -/
def switchedOn : List Moment → Bool
  | [] => true
  | .switched available :: _ => available
  | _ :: past => switchedOn past

namespace Moment

/-- Whether a handle was given out. -/
def opens : Moment → Bool
  | accessed (.acquired _ (some _)) => true
  | _ => false

/-- The text that was written to that field through that handle. -/
def written? (handle : Nat) (field : FieldName) : Moment → Option String
  | accessed (.wrote number place text) =>
    if number = handle ∧ place = field then some text else none
  | _ => none

/-- Whether something was written through that handle. -/
def writes (handle : Nat) : Moment → Bool
  | accessed (.wrote number _ _) => number = handle
  | _ => false

/-- The answer was the one that the past demands: a handle is given out, with the next number, and
changes are kept, exactly if the memory is switched on, and a text is read as the handle shows it. -/
def Due (past : List Moment) : Moment → Prop
  | accessed (.acquired _ handle?) =>
    handle? = if switchedOn past then some (past.countP opens) else none
  | accessed (.read handle field text) => text = shown past handle field
  | accessed (.released _ _ commit succeeded) => succeeded = (!commit || switchedOn past)
  | _ => True

end Moment

/-- How often changes were kept: the handles that were given back with success to be kept, and that
something was written through. -/
def commits : List Moment → Nat
  | [] => 0
  | .accessed (.released handle _ true true) :: past =>
    if past.any (·.writes handle) then commits past + 1 else commits past
  | _ :: past => commits past

/-- All answers were those that the past demanded at their time. -/
def AllDue (past : List Moment) : Prop :=
  ∀ later moment earlier, past = later ++ moment :: earlier → moment.Due earlier

variable {past : List Moment} {moment : Moment} {handle : Nat}

theorem AllDue.tail (h : AllDue (moment :: past)) : AllDue past := fun later _ _ hpast =>
  h (moment :: later) _ _ (congrArg (moment :: ·) hpast)

theorem AllDue.cons (h : AllDue past) (hmoment : moment.Due past) : AllDue (moment :: past) := by
  intro later next earlier hpast
  cases later with
  | nil =>
    obtain ⟨rfl, rfl⟩ := List.cons.inj hpast
    exact hmoment
  | cons head rest => exact h rest next earlier (List.cons.inj hpast).2

/-- A handle shows its own last text for a field, or what was held when it was acquired, and nothing
that happened elsewhere in between plays a part. -/
theorem exists_acquired (h : AllDue past) (hhandle : handle < past.countP (·.opens)) :
    ∃ later name earlier, past = later ++ .accessed (.acquired name (some handle)) :: earlier ∧
      ∀ field, shown past handle field =
        (later.findSome? (·.written? handle field) <|> held earlier ⟨name, field⟩) := by
  induction past with
  | nil => exact absurd hhandle (Nat.not_lt_zero handle)
  | cons moment past ih =>
    have hpast (hhandle : handle < past.countP (·.opens))
        (hshown : ∀ field, shown (moment :: past) handle field =
          (moment.written? handle field <|> shown past handle field)) :
        ∃ later name earlier,
          moment :: past = later ++ .accessed (.acquired name (some handle)) :: earlier ∧
            ∀ field, shown (moment :: past) handle field =
              (later.findSome? (·.written? handle field) <|> held earlier ⟨name, field⟩) := by
      obtain ⟨later, name, earlier, rfl, hfield⟩ := ih h.tail hhandle
      refine ⟨moment :: later, name, earlier, rfl, fun field => ?_⟩
      rw [hshown, hfield, List.findSome?_cons]
      cases moment.written? handle field with
      | none => rfl
      | some text => rfl
    cases moment with
    | inserted => exact hpast hhandle fun _ => rfl
    | switched => exact hpast hhandle fun _ => rfl
    | accessed access =>
      cases access with
      | acquired name number? =>
        cases number? with
        | none => exact hpast hhandle fun _ => rfl
        | some number =>
          have hdue : some number =
              if switchedOn past then some (past.countP (·.opens)) else none := h [] _ past rfl
          have hnumber : number = past.countP (·.opens) := by
            split at hdue
            · exact Option.some.inj hdue
            · cases hdue
          by_cases hsame : number = handle
          · subst hsame
            exact ⟨[], name, past, rfl, fun field => if_pos rfl⟩
          · rw [List.countP_cons_of_pos rfl] at hhandle
            exact hpast (by omega) fun field => if_neg hsame
      | read => exact hpast hhandle fun _ => rfl
      | wrote number place text =>
        refine hpast hhandle fun field => ?_
        simp only [shown, Moment.written?]
        split
        · rfl
        · rfl
      | released => exact hpast hhandle fun _ => rfl

/-! ### A memory follows its past -/

/-- The memory and the copies are what the past says. -/
structure Session.Faithful (session : Session) : Prop where
  /-- The memory holds what was put into it. -/
  memory_eq : ∀ address, session.memory.get? address = held session.past address
  /-- Each copy is what its handle shows. -/
  copy_eq : ∀ handle copy, session.copy? handle = some copy →
    ∀ field, copy.get? field = shown session.past handle field
  /-- It is known of each copy whether something was written to it. -/
  modified_eq : ∀ handle copy, session.copy? handle = some copy →
    copy.modified = session.past.any (·.writes handle)
  /-- There is a place for every handle that was given out. -/
  length_eq : session.copies.length = session.past.countP (·.opens)
  /-- Nothing was written through a handle that is still to be given out. -/
  unwritten : ∀ handle, session.copies.length ≤ handle →
    session.past.any (·.writes handle) = false
  /-- It is known whether the memory is switched on. -/
  available_eq : session.memory.available = switchedOn session.past
  /-- The handles that were given out were counted. -/
  opened_eq : session.memory.opened = session.past.countP (·.opens)
  /-- So were the changes that were kept. -/
  committed_eq : session.memory.committed = commits session.past
  /-- All answers were due. -/
  allDue : AllDue session.past

namespace Session

variable {session : Session}

section Copies

variable {copies : List (Option Snapshot)} {copy : Snapshot}

theorem lt_length_of_join (h : copies[handle]?.join = some copy) : handle < copies.length := by
  refine Decidable.byContradiction fun hlength => ?_
  rw [List.getElem?_eq_none (Nat.le_of_not_lt hlength)] at h
  cases h

theorem join_set (h : copies[handle]?.join = some copy) (new : Option Snapshot) (other : Nat) :
    (copies.set handle new)[other]?.join =
      if handle = other then new else copies[other]?.join := by
  rw [List.getElem?_set]
  split
  case isTrue => rw [if_pos (lt_length_of_join h), Option.join_some]
  case isFalse => rfl

theorem join_concat (copies : List (Option Snapshot)) (copy : Snapshot) (other : Nat) :
    (copies ++ [some copy])[other]?.join =
      if copies.length = other then some copy else copies[other]?.join := by
  split
  case isTrue h => rw [← h, List.getElem?_concat_length, Option.join_some]
  case isFalse h =>
    by_cases hother : other < copies.length
    · rw [List.getElem?_append_left hother]
    · have hlength : (copies ++ [some copy]).length ≤ other := by
        rw [List.length_append, List.length_singleton]
        omega
      rw [List.getElem?_eq_none hlength, List.getElem?_eq_none (Nat.le_of_not_lt hother)]

end Copies

namespace Faithful

theorem insert (h : session.Faithful) (address : Address) (text : String) :
    (session.answer (.insert address text)).Faithful := by
  refine { h with memory_eq := fun other => ?_, allDue := h.allDue.cons trivial }
  show (session.memory.insert address text).get? other = _
  rw [get?_insert, h.memory_eq]
  rfl

theorem setAvailable (h : session.Faithful) (available : Bool) :
    (session.answer (.setAvailable available)).Faithful :=
  { h with available_eq := rfl, allDue := h.allDue.cons trivial }

theorem read (h : session.Faithful) (handle : Nat) (field : FieldName) :
    (session.answer (.read handle field)).Faithful := by
  simp only [answer]
  cases hcopy : session.copy? handle with
  | none => exact h
  | some copy =>
    exact
      { h with
        allDue := h.allDue.cons (h.copy_eq handle copy hcopy field) }

theorem write (h : session.Faithful) (handle : Nat) (field : FieldName) (text : String) :
    (session.answer (.write handle field text)).Faithful := by
  simp only [answer]
  cases hcopy : session.copy? handle with
  | none => exact h
  | some copy =>
    have hhandle : handle < session.copies.length := lt_length_of_join hcopy
    refine
      { memory_eq := h.memory_eq
        copy_eq := fun other found hfound place => ?_
        modified_eq := fun other found hfound => ?_
        length_eq := List.length_set.trans h.length_eq
        unwritten := fun other hother => ?_
        available_eq := h.available_eq
        opened_eq := h.opened_eq
        committed_eq := h.committed_eq
        allDue := h.allDue.cons trivial }
    · simp only [copy?, join_set hcopy] at hfound
      simp only [shown]
      split at hfound
      case isTrue heq =>
        cases hfound
        rw [Snapshot.get?_insert, h.copy_eq handle copy hcopy, ← heq]
        simp
      case isFalse hne =>
        rw [if_neg fun heq => hne heq.1]
        exact h.copy_eq other found hfound place
    · simp only [copy?, join_set hcopy] at hfound
      rw [List.any_cons]
      split at hfound
      case isTrue heq =>
        cases hfound
        simp [Moment.writes, heq, Snapshot.insert]
      case isFalse hne =>
        rw [h.modified_eq other found hfound]
        simp [Moment.writes, hne]
    · rw [List.length_set] at hother
      rw [List.any_cons, h.unwritten other hother]
      simp only [Moment.writes, Bool.or_false, decide_eq_false_iff_not]
      omega

theorem acquire (h : session.Faithful) (name : StoreName) :
    (session.answer (.acquire name)).Faithful := by
  have havailable := h.available_eq
  simp only [answer]
  cases hon : session.memory.available with
  | false =>
    have hacquire : session.memory.acquire name = (.error .unavailable, session.memory) :=
      if_neg (by simp [hon])
    rw [hon] at havailable
    rw [hacquire]
    exact
      { h with
        allDue := h.allDue.cons (by simp [Moment.Due, ← havailable]) }
  | true =>
    have hacquire : session.memory.acquire name = (.ok { fields := session.memory.fields name },
        { session.memory with opened := session.memory.opened + 1 }) := if_pos hon
    have hlength : session.copies.length + 1 = session.past.countP (·.opens) + 1 := by
      rw [h.length_eq]
    rw [hon] at havailable
    rw [hacquire]
    refine
      { memory_eq := h.memory_eq
        copy_eq := fun other found hfound place => ?_
        modified_eq := fun other found hfound => ?_
        length_eq := ?_
        unwritten := fun other hother => ?_
        available_eq := h.available_eq
        opened_eq := ?_
        committed_eq := h.committed_eq
        allDue := h.allDue.cons (by simp [Moment.Due, ← havailable, h.length_eq]) }
    · simp only [copy?, join_concat] at hfound
      simp only [shown]
      split at hfound
      case isTrue heq =>
        cases hfound
        rw [if_pos heq, ← h.memory_eq]
        rfl
      case isFalse hne =>
        rw [if_neg hne]
        exact h.copy_eq other found hfound place
    · simp only [copy?, join_concat] at hfound
      rw [List.any_cons]
      split at hfound
      case isTrue heq =>
        cases hfound
        rw [h.unwritten other (Nat.le_of_eq heq)]
        rfl
      case isFalse => exact h.modified_eq other found hfound
    · rw [List.length_append, List.countP_cons_of_pos rfl]
      exact hlength
    · rw [List.length_append] at hother
      exact h.unwritten other (Nat.le_of_succ_le hother)
    · rw [List.countP_cons_of_pos rfl, ← h.opened_eq]

theorem release (h : session.Faithful) (handle : Nat) (name : StoreName) (commit : Bool) :
    (session.answer (.release handle name commit)).Faithful := by
  have havailable := h.available_eq
  simp only [answer]
  cases hcopy : session.copy? handle with
  | none => exact h
  | some copy =>
    -- the handle is gone, whatever became of the changes
    have hrest (succeeded : Bool) (memory : VolatileStore)
        (hmemory : ∀ address, memory.get? address =
          held (.accessed (.released handle name commit succeeded) :: session.past) address)
        (hon : memory.available = session.memory.available)
        (hopened : memory.opened = session.memory.opened)
        (hcommitted : memory.committed =
          commits (.accessed (.released handle name commit succeeded) :: session.past))
        (hdue : succeeded = (!commit || switchedOn session.past)) :
        ({ memory
           copies := session.copies.set handle none
           past := .accessed (.released handle name commit succeeded) :: session.past } :
          Session).Faithful := by
      have hkept (other : Nat) (found : Snapshot)
          (hfound : (session.copies.set handle none)[other]?.join = some found) :
          session.copy? other = some found := by
        rw [join_set hcopy] at hfound
        split at hfound
        · cases hfound
        · exact hfound
      exact
        { memory_eq := hmemory
          copy_eq := fun other found hfound => h.copy_eq other found (hkept other found hfound)
          modified_eq := fun other found hfound =>
            h.modified_eq other found (hkept other found hfound)
          length_eq := List.length_set.trans h.length_eq
          unwritten := fun other hother => h.unwritten other (List.length_set ▸ hother)
          available_eq := hon.trans h.available_eq
          opened_eq := hopened.trans h.opened_eq
          committed_eq := hcommitted
          allDue := h.allDue.cons hdue }
    dsimp only
    cases commit with
    | false => exact hrest true session.memory h.memory_eq rfl rfl h.committed_eq rfl
    | true =>
      cases hon : session.memory.available with
      | false =>
        have hrelease : session.memory.release name copy true =
            (.error .unavailable, session.memory) := by
          simp only [VolatileStore.release, hon]
          rfl
        rw [hrelease]
        refine hrest false session.memory h.memory_eq rfl rfl h.committed_eq ?_
        rw [← havailable, hon]
        rfl
      | true =>
        have hrelease : session.memory.release name copy true =
            (.ok (), { session.memory.setFields name copy.fields with
              committed :=
                if copy.modified then session.memory.committed + 1
                else session.memory.committed }) := by
          simp only [VolatileStore.release, hon]
          rfl
        have hget (address : Address) := get?_release_of_available hon name copy address
        rw [hrelease] at hget ⊢
        refine hrest true _ (fun address => ?_) rfl rfl ?_ ?_
        · rw [hget, h.copy_eq handle copy hcopy, h.memory_eq]
          rfl
        · show (if copy.modified then session.memory.committed + 1
            else session.memory.committed) = _
          rw [h.modified_eq handle copy hcopy, h.committed_eq]
          rfl
        · rw [← havailable, hon]
          rfl

theorem answer (h : session.Faithful) (request : Request) : (session.answer request).Faithful := by
  cases request with
  | insert address text => exact h.insert address text
  | setAvailable available => exact h.setAvailable available
  | acquire name => exact h.acquire name
  | read handle field => exact h.read handle field
  | write handle field text => exact h.write handle field text
  | release handle name commit => exact h.release handle name commit

theorem answers (h : session.Faithful) (requests : List Request) :
    (requests.foldl (fun session request => session.answer request) session).Faithful := by
  induction requests generalizing session with
  | nil => exact h
  | cons request rest ih => exact ih (h.answer request)

end Faithful

theorem faithful_new : ({} : Session).Faithful where
  memory_eq _ := rfl
  copy_eq handle copy h := by cases h
  modified_eq handle copy h := by cases h
  length_eq := rfl
  unwritten _ _ := rfl
  available_eq := rfl
  opened_eq := rfl
  committed_eq := rfl
  allDue later moment earlier h := by simp at h

end Session

/-- **Handles are isolated, and commits are atomic.** Whatever a memory is asked for since it was new,
in any order, and however many handles are out at a time: what a handle shows for a field is its own
last text for it, or else what was held when it was acquired. What the memory holds changes only
when a text is inserted, in this one place, and when a handle is given back to be kept while the
memory is switched on, which puts what the handle shows in the place of the store that it is given
back to, and leaves every other store alone. The memory counts the handles that it gave out, and
those that were given back in this way after something was written through them. -/
theorem handles_are_isolated (requests : List Request) :
    let session := Session.ofRequests requests
    (∀ handle copy, session.copy? handle = some copy → ∃ later name earlier,
        session.past = later ++ .accessed (.acquired name (some handle)) :: earlier ∧
          ∀ field, copy.get? field =
            (later.findSome? (·.written? handle field) <|> held earlier ⟨name, field⟩)) ∧
      (∀ address, session.memory.get? address = held session.past address) ∧
      (∀ later moment earlier, session.past = later ++ moment :: earlier → moment.Due earlier) ∧
      session.memory.opened = session.past.countP (·.opens) ∧
      session.memory.committed = commits session.past := by
  intro session
  have h : session.Faithful := Session.faithful_new.answers requests
  refine ⟨fun handle copy hcopy => ?_, h.memory_eq, h.allDue, h.opened_eq, h.committed_eq⟩
  have hhandle : handle < session.past.countP (·.opens) := by
    rw [← h.length_eq]
    exact Session.lt_length_of_join hcopy
  obtain ⟨later, name, earlier, hpast, hshown⟩ := exists_acquired h.allDue hhandle
  exact ⟨later, name, earlier, hpast, fun field =>
    (h.copy_eq handle copy hcopy field).trans (hshown field)⟩

/-- Of two handles to one store, each is written to and given back to be kept. What the first one
wrote is lost, for the second one shows the store as it was before. -/
example :
    let store : StoreName := ⟨none, "iccidmap"⟩
    let session := Session.ofRequests
      [.acquire store, .acquire store, .write 0 ⟨"imsi", "8901"⟩ "00101",
        .write 1 ⟨"imsi", "8902"⟩ "00102", .release 0 store true, .release 1 store true]
    session.memory.get? ⟨store, ⟨"imsi", "8901"⟩⟩ = none ∧
      session.memory.get? ⟨store, ⟨"imsi", "8902"⟩⟩ = some "00102" ∧
      session.memory.opened = 2 ∧ session.memory.committed = 2 := by
  decide +kernel

end SimIdentity.VolatileStore
