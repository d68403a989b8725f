/-!
# Known texts

A modem, a card and a cache may all report a text that is present and empty. Such a text
tells nothing, so wherever a value is looked at for its content it first passes through
`known`, which treats an empty text as an absent one.
-/

namespace SimIdentity

/-- The text, if there is one that is not empty. -/
def known (text : Option String) : Option String :=
  text.filter (· ≠ "")

@[simp] theorem known_none : known none = none := rfl

@[simp] theorem known_empty : known (some "") = none := by simp [known]

theorem known_some {s : String} (h : s ≠ "") : known (some s) = some s := by simp [known, h]

theorem known_eq_some_iff {text : Option String} {s : String} :
    known text = some s ↔ text = some s ∧ s ≠ "" := by
  simp [known, Option.filter_eq_some_iff]

/-- What is known is never an empty text. -/
theorem known_ne_empty (text : Option String) : known text ≠ some "" :=
  fun h => (known_eq_some_iff.1 h).2 rfl

/-- A text that is not empty is known as it is. -/
theorem known_eq_self {text : Option String} (h : text ≠ some "") : known text = text := by
  cases text with
  | none => rfl
  | some s => exact known_some fun hs => h (by rw [hs])

/-- The first text that is known is the first of those there are that is not empty. -/
theorem findSome?_known (texts : List (Option String)) :
    texts.findSome? known = (texts.filterMap id).find? (· ≠ "") := by
  induction texts with
  | nil => rfl
  | cons text texts ih =>
    cases text with
    | none =>
      rw [List.findSome?_cons, known_none, List.filterMap_cons_none rfl]
      exact ih
    | some s =>
      show _ = (s :: texts.filterMap id).find? _
      rw [List.findSome?_cons, List.find?_cons, ih]
      by_cases hs : s = "" <;> simp [known, Option.filter, hs]

end SimIdentity
