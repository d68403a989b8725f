import SimIdentity.FallbackName
import SimIdentity.Text

/-!
# The public identity

What subscribers get to see of the card in one slot. Its parts may come from the cache, so
they can be there before a PIN has been entered and before the card itself reports them.
-/

namespace SimIdentity

/-- The public face of the card in one modem slot. -/
structure Identity where
  /-- The modem the card is in. -/
  path : String
  /-- The serial number of the card. -/
  iccid : Option String := none
  /-- The identity of the subscription. -/
  imsi : Option String := none
  /-- The provider name to show. -/
  spn : Option String := none
  deriving DecidableEq, Repr

/-- The provider name to show: what the card says, else what was cached, else the fallback. A
source that is empty is passed over. -/
def publicName? (cardName cachedName : Option String) (fallback : FallbackName) :
    Option String :=
  [cardName, cachedName, some fallback.text].findSome? known

/-- Each source counts only if those before it say nothing. -/
theorem publicName?_eq (cardName cachedName : Option String) (fallback : FallbackName) :
    publicName? cardName cachedName fallback =
      (known cardName <|> (known cachedName <|> known (some fallback.text))) := by
  simp only [publicName?, List.findSome?_cons, List.findSome?_nil]
  cases known cardName <;> cases known cachedName <;> cases known (some fallback.text) <;> rfl

theorem publicName?_of_unnamed (fallback : FallbackName) :
    publicName? none none fallback = known (some fallback.text) :=
  publicName?_eq none none fallback

theorem publicName?_of_cached {name : String} (hname : name ≠ "") (fallback : FallbackName) :
    publicName? none (some name) fallback = some name := by
  rw [publicName?_eq, known_some hname]
  rfl

theorem publicName?_of_card {name : String} (hname : name ≠ "") (cachedName : Option String)
    (fallback : FallbackName) : publicName? (some name) cachedName fallback = some name := by
  rw [publicName?_eq, known_some hname]
  rfl

/-- A name is never shown as an empty text. -/
theorem publicName?_ne_empty (cardName cachedName : Option String) (fallback : FallbackName) :
    publicName? cardName cachedName fallback ≠ some "" := by
  intro h
  obtain ⟨_, _, h⟩ := List.exists_of_findSome?_eq_some h
  exact known_ne_empty _ h

end SimIdentity
