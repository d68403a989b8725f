/-!
# Fallback names

While nothing better is known, a subscription is shown under its home network's codes: the
mobile country code followed by the mobile network code, as in `24201`. The name lives in a
buffer of seven bytes, which every pair of proper codes fits. Codes that are longer are cut
at the first character whose UTF-8 encoding does not fit any more, and what follows that
character is dropped even if it would fit again.
-/

namespace SimIdentity

/-- The longest proper mobile country code, in characters. -/
def maxMccLength : Nat := 3

/-- The longest proper mobile network code, in characters. -/
def maxMncLength : Nat := 3

/-- The bytes a fallback name may take. -/
def fallbackCapacity : Nat := 7

/-- The leading characters that fit in `room` bytes of UTF-8, up to the first that does not. -/
def fitting (room : Nat) : List Char → List Char
  | [] => []
  | c :: cs => if c.utf8Size ≤ room then c :: fitting (room - c.utf8Size) cs else []

@[simp] theorem fitting_nil (room : Nat) : fitting room [] = [] := rfl

theorem fitting_cons_of_le {room : Nat} {c : Char} (h : c.utf8Size ≤ room) (cs : List Char) :
    fitting room (c :: cs) = c :: fitting (room - c.utf8Size) cs :=
  if_pos h

theorem fitting_cons_of_not_le {room : Nat} {c : Char} (h : ¬ c.utf8Size ≤ room) (cs : List Char) :
    fitting room (c :: cs) = [] :=
  if_neg h

theorem utf8ByteSize_ofList_cons (c : Char) (cs : List Char) :
    (String.ofList (c :: cs)).utf8ByteSize = c.utf8Size + (String.ofList cs).utf8ByteSize := by
  rw [String.ofList_cons, String.utf8ByteSize_append, String.utf8ByteSize_singleton]

theorem utf8ByteSize_fitting_le (room : Nat) (cs : List Char) :
    (String.ofList (fitting room cs)).utf8ByteSize ≤ room := by
  induction cs generalizing room with
  | nil => simp
  | cons c cs ih =>
    by_cases h : c.utf8Size ≤ room
    · have := ih (room - c.utf8Size)
      rw [fitting_cons_of_le h, utf8ByteSize_ofList_cons]
      omega
    · simp [fitting_cons_of_not_le h]

/-- A name made up of network codes. It is empty while the home network is unknown. -/
structure FallbackName where
  /-- The name as shown. -/
  text : String
  /-- The name fits its buffer. -/
  size_le : text.utf8ByteSize ≤ fallbackCapacity
  deriving DecidableEq, Repr

namespace FallbackName

/-- The name of an unknown home network. -/
instance : EmptyCollection FallbackName := ⟨⟨"", by simp [fallbackCapacity]⟩⟩

instance : Inhabited FallbackName := ⟨∅⟩

@[simp] theorem text_empty : (∅ : FallbackName).text = "" := rfl

/-- Whether the home network is unknown. -/
def isEmpty (name : FallbackName) : Bool := name.text.isEmpty

/-- The two codes one after the other, as far as they fit. -/
def ofCodes (mcc mnc : String) : FallbackName where
  text := String.ofList (fitting fallbackCapacity (mcc.toList ++ mnc.toList))
  size_le := utf8ByteSize_fitting_le _ _

theorem text_ofCodes (mcc mnc : String) :
    (ofCodes mcc mnc).text = String.ofList (fitting fallbackCapacity (mcc.toList ++ mnc.toList)) :=
  rfl

end FallbackName

end SimIdentity
