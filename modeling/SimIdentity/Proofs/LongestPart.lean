import SimIdentity.FallbackName

/-!
# The longest part that fits

Proper network codes always fit the buffer of a fallback name. A modem may report any texts for
them, though, of any length and in any script, and then it is a matter of bytes how much of them is
shown: a character takes one to four bytes of UTF-8, and it is written as a whole or not at all.

`LongestPart` says what is to be shown without saying how to find it. Nothing is searched for in
fact: the characters are written one by one, and the first that is refused ends it. This gives the
longest part because a longer part takes more bytes. A part that fits is written to its end, since
all that comes before its end fits as well, and nothing that goes beyond a refused character fits.

## Buffers

The buffer that is written into comes from elsewhere. `TextBuffer` is what can be done with it, and
`TextBuffer.Bounded` what is relied on: it takes a character exactly if the encoding of that
character fits what is left of the capacity.

## What is proved

`fallback_name_is_longest_part`: whatever the buffer is made of, a fallback name is the longest
part of its two codes that fits. Both codes are shown exactly if they fit, ASCII codes are cut after
seven characters, and what follows a character that does not fit plays no part. Proper codes are
never cut (`FallbackName.text_ofCodes_of_proper`), and where codes are cut, at most three bytes stay
free (`FallbackName.fallbackCapacity_lt_of_cut`).
-/

namespace SimIdentity

/-! ### Longest parts -/

/-- A text starts with this part of it, which takes at most so many bytes. A text is made up of
whole characters, so the part ends between two of them. -/
structure FittingPart (room : Nat) (text part : String) : Prop where
  /-- The text starts with the part. -/
  isPrefix : part.toList <+: text.toList
  /-- The part fits. -/
  size_le : part.utf8ByteSize ≤ room

/-- No part of the text that fits takes more bytes than this one. -/
structure LongestPart (room : Nat) (text part : String) : Prop extends
    FittingPart room text part where
  /-- The others are not longer. -/
  size_max : ∀ other, FittingPart room text other → other.utf8ByteSize ≤ part.utf8ByteSize

section Lists

variable {room : Nat} {cs kept part : List Char}

theorem utf8ByteSize_ofList_append (cs rest : List Char) :
    (String.ofList (cs ++ rest)).utf8ByteSize =
      (String.ofList cs).utf8ByteSize + (String.ofList rest).utf8ByteSize := by
  rw [String.ofList_append, String.utf8ByteSize_append]

/-- A longer part takes at least as many bytes, -/
theorem utf8ByteSize_mono (h : part <+: cs) :
    (String.ofList part).utf8ByteSize ≤ (String.ofList cs).utf8ByteSize := by
  obtain ⟨rest, rfl⟩ := h
  rw [utf8ByteSize_ofList_append]
  omega

/-- and as many only if it is the same, since no character takes none. -/
theorem eq_of_prefix_of_utf8ByteSize_le (h : part <+: cs)
    (hsize : (String.ofList cs).utf8ByteSize ≤ (String.ofList part).utf8ByteSize) : part = cs := by
  obtain ⟨rest, rfl⟩ := h
  cases rest with
  | nil => rw [List.append_nil]
  | cons c rest =>
    have := c.utf8Size_pos
    rw [utf8ByteSize_ofList_append, utf8ByteSize_ofList_cons] at hsize
    omega

/-- What fits is kept, and what is left of the room goes to what follows. -/
theorem fitting_append (hkept : (String.ofList kept).utf8ByteSize ≤ room) (cs : List Char) :
    fitting room (kept ++ cs) =
      kept ++ fitting (room - (String.ofList kept).utf8ByteSize) cs := by
  induction kept generalizing room with
  | nil => simp
  | cons c kept ih =>
    rw [utf8ByteSize_ofList_cons] at hkept ⊢
    rw [List.cons_append, fitting_cons_of_le (by omega), ih (by omega), Nat.sub_sub,
      List.cons_append]

theorem fitting_isPrefix (room : Nat) (cs : List Char) : fitting room cs <+: cs := by
  induction cs generalizing room with
  | nil => exact List.prefix_rfl
  | cons c cs ih =>
    by_cases hfits : c.utf8Size ≤ room
    · rw [fitting_cons_of_le hfits]
      exact List.cons_prefix_cons.2 ⟨rfl, ih _⟩
    · rw [fitting_cons_of_not_le hfits]
      exact List.nil_prefix

/-- The parts that fit are the parts of what is kept. -/
theorem prefix_fitting_iff :
    part <+: fitting room cs ↔ part <+: cs ∧ (String.ofList part).utf8ByteSize ≤ room := by
  constructor
  · intro h
    exact ⟨h.trans (fitting_isPrefix room cs),
      Nat.le_trans (utf8ByteSize_mono h) (utf8ByteSize_fitting_le room cs)⟩
  · rintro ⟨⟨rest, rfl⟩, hsize⟩
    rw [fitting_append hsize]
    exact List.prefix_append _ _

theorem fitting_eq_self_iff : fitting room cs = cs ↔ (String.ofList cs).utf8ByteSize ≤ room := by
  constructor
  · intro h
    rw [← h]
    exact utf8ByteSize_fitting_le room cs
  · intro h
    have hcs := fitting_append h []
    rwa [List.append_nil, fitting_nil, List.append_nil] at hcs

/-- The first character that does not fit ends it, whatever follows. -/
theorem fitting_of_refused {c : Char} (hkept : (String.ofList kept).utf8ByteSize ≤ room)
    (hrefused : room < (String.ofList kept).utf8ByteSize + c.utf8Size) (rest : List Char) :
    fitting room (kept ++ c :: rest) = kept := by
  rw [fitting_append hkept, fitting_cons_of_not_le (by omega), List.append_nil]

/-- If something is dropped, there is such a character. -/
theorem exists_refused (h : fitting room cs ≠ cs) :
    ∃ c rest, cs = fitting room cs ++ c :: rest ∧
      room < (String.ofList (fitting room cs)).utf8ByteSize + c.utf8Size := by
  obtain ⟨rest, hrest⟩ := fitting_isPrefix room cs
  cases rest with
  | nil => exact absurd (by rwa [List.append_nil] at hrest) h
  | cons c rest =>
    refine ⟨c, rest, hrest.symm, Nat.lt_of_not_le fun hfits => ?_⟩
    -- Otherwise what is kept and this character would be among the parts of what is kept.
    have hlonger : fitting room cs ++ [c] <+: fitting room cs := by
      refine prefix_fitting_iff.2 ⟨⟨rest, by rwa [List.append_assoc]⟩, ?_⟩
      rwa [utf8ByteSize_ofList_append, utf8ByteSize_ofList_cons, String.ofList_nil,
        String.utf8ByteSize_empty, Nat.add_zero]
    have := hlonger.length_le
    rw [List.length_append, List.length_singleton] at this
    omega

/-- Characters of one byte each are counted. -/
theorem fitting_of_ascii (hcs : ∀ c ∈ cs, c.toNat < 128) : fitting room cs = cs.take room := by
  induction cs generalizing room with
  | nil => simp
  | cons c cs ih =>
    obtain ⟨hc, hcs⟩ := List.forall_mem_cons.1 hcs
    have hsize : c.utf8Size = 1 := Char.utf8Size_eq_one_iff.2 (Nat.le_of_lt_succ hc)
    cases room with
    | zero => rw [fitting_cons_of_not_le (by omega), List.take_zero]
    | succ room =>
      rw [fitting_cons_of_le (by omega), hsize, Nat.add_sub_cancel, ih hcs, List.take_succ_cons]

end Lists

/-- There is one longest part, and it is what is kept. -/
theorem longestPart_iff {room : Nat} {text part : String} :
    LongestPart room text part ↔ part = String.ofList (fitting room text.toList) := by
  have hfits : FittingPart room text (String.ofList (fitting room text.toList)) := by
    constructor
    · rw [String.toList_ofList]
      exact fitting_isPrefix room text.toList
    · exact utf8ByteSize_fitting_le room text.toList
  have hstarts {other : String} (h : FittingPart room text other) :
      other.toList <+: fitting room text.toList := by
    refine prefix_fitting_iff.2 ⟨h.isPrefix, ?_⟩
    rw [String.ofList_toList]
    exact h.size_le
  constructor
  · intro h
    have hsize := h.size_max _ hfits
    rw [← String.ofList_toList (s := part)] at hsize ⊢
    exact congrArg String.ofList
      (eq_of_prefix_of_utf8ByteSize_le (hstarts h.toFittingPart) hsize)
  · rintro rfl
    refine ⟨hfits, fun other hother => ?_⟩
    have hsize := utf8ByteSize_mono (hstarts hother)
    rwa [String.ofList_toList] at hsize

/-! ### Buffers -/

/-- A buffer that text is written into, one character at a time. -/
class TextBuffer (β : Type) where
  /-- A new buffer. -/
  empty : β
  /-- What was written into a buffer. -/
  text : β → String
  /-- Writes a character at the end, and says whether it was taken. -/
  push : Char → β → Bool × β

namespace TextBuffer

variable {β : Type} [TextBuffer β]

/-- Writes characters one after the other, up to the first that is refused. -/
def fill (buffer : β) : List Char → β
  | [] => buffer
  | c :: cs => if (push c buffer).1 then fill (push c buffer).2 cs else (push c buffer).2

variable (β) in
/-- The buffers hold so many bytes of UTF-8. -/
structure Bounded (capacity : Nat) : Prop where
  /-- A new buffer is empty. -/
  text_empty : text (empty : β) = ""
  /-- A character whose encoding fits what is left of the capacity is taken and stands at the
  end, -/
  taken (c : Char) (buffer : β) : (text buffer).utf8ByteSize + c.utf8Size ≤ capacity →
    (push c buffer).1 = true ∧ text (push c buffer).2 = (text buffer).push c
  /-- and any other is refused and leaves the text as it was. -/
  refused (c : Char) (buffer : β) : capacity < (text buffer).utf8ByteSize + c.utf8Size →
    (push c buffer).1 = false ∧ text (push c buffer).2 = text buffer

/-- What is written into a buffer is kept as far as it fits what is left of the capacity. -/
theorem Bounded.text_fill {capacity : Nat} (h : Bounded β capacity) (buffer : β)
    (cs : List Char) :
    text (fill buffer cs) =
      text buffer ++ String.ofList (fitting (capacity - (text buffer).utf8ByteSize) cs) := by
  -- The text of the buffer grows at its end while the characters to write are used up in front.
  induction cs generalizing buffer with
  | nil => rw [fill, fitting_nil, String.ofList_nil, String.append_empty]
  | cons c cs ih =>
    by_cases hfits : (text buffer).utf8ByteSize + c.utf8Size ≤ capacity
    · obtain ⟨htaken, htext⟩ := h.taken c buffer hfits
      rw [fill, if_pos htaken, ih, htext, String.utf8ByteSize_push, fitting_cons_of_le (by omega),
        Nat.sub_sub, String.ofList_cons, String.push_eq_append, String.append_assoc]
    · obtain ⟨hrefused, htext⟩ := h.refused c buffer (by omega)
      have := c.utf8Size_pos
      rw [fill, if_neg (by rw [hrefused]; exact Bool.false_ne_true), htext,
        fitting_cons_of_not_le (by omega), String.ofList_nil, String.append_empty]

end TextBuffer

/-! ### Fallback names -/

namespace FallbackName

variable {mcc mnc : String}

theorem text_ofCodes_eq_fitting (mcc mnc : String) :
    (ofCodes mcc mnc).text = String.ofList (fitting fallbackCapacity (mcc ++ mnc).toList) := by
  rw [text_ofCodes, String.toList_append]

/-- Both codes are shown if they fit, and only then. -/
theorem text_ofCodes_eq_append_iff :
    (ofCodes mcc mnc).text = mcc ++ mnc ↔ (mcc ++ mnc).utf8ByteSize ≤ fallbackCapacity := by
  rw [text_ofCodes_eq_fitting, ← String.toList_inj, String.toList_ofList, fitting_eq_self_iff,
    String.ofList_toList]

theorem text_ofCodes_of_ascii (hascii : ∀ c ∈ (mcc ++ mnc).toList, c.toNat < 128) :
    (ofCodes mcc mnc).text = String.ofList ((mcc ++ mnc).toList.take fallbackCapacity) := by
  rw [text_ofCodes_eq_fitting, fitting_of_ascii hascii]

/-- Proper codes are never cut. -/
theorem text_ofCodes_of_proper (hascii : ∀ c ∈ (mcc ++ mnc).toList, c.toNat < 128)
    (hmcc : mcc.length ≤ maxMccLength) (hmnc : mnc.length ≤ maxMncLength) :
    (ofCodes mcc mnc).text = mcc ++ mnc := by
  have hlength : (mcc ++ mnc).toList.length ≤ fallbackCapacity := by
    rw [String.toList_append, List.length_append, String.length_toList, String.length_toList]
    exact Nat.le_trans (Nat.add_le_add hmcc hmnc) (by decide)
  rw [text_ofCodes_of_ascii hascii, List.take_of_length_le hlength, String.ofList_toList]

/-- Where codes were cut, at most three bytes of the buffer stay free. -/
theorem fallbackCapacity_lt_of_cut (hcut : (ofCodes mcc mnc).text ≠ mcc ++ mnc) :
    fallbackCapacity < (ofCodes mcc mnc).text.utf8ByteSize + 4 := by
  have hlist : fitting fallbackCapacity (mcc ++ mnc).toList ≠ (mcc ++ mnc).toList := by
    intro h
    apply hcut
    rw [text_ofCodes_eq_fitting, h, String.ofList_toList]
  obtain ⟨c, rest, -, hrefused⟩ := exists_refused hlist
  have := c.utf8Size_le_four
  rw [text_ofCodes_eq_fitting]
  omega

/-- A name can be written into as long as it fits its buffer. -/
instance : TextBuffer FallbackName where
  empty := ∅
  text := text
  push c name :=
    if h : name.text.utf8ByteSize + c.utf8Size ≤ fallbackCapacity then
      (true, ⟨name.text.push c, by rwa [String.utf8ByteSize_push]⟩)
    else
      (false, name)

theorem bounded : TextBuffer.Bounded FallbackName fallbackCapacity where
  text_empty := rfl
  taken c name h := by
    have hpush : TextBuffer.push c name =
        (true, ⟨name.text.push c, by rw [String.utf8ByteSize_push]; exact h⟩) := dif_pos h
    rw [hpush]
    exact ⟨rfl, rfl⟩
  refused c name h := by
    have hpush : TextBuffer.push c name = (false, name) := dif_neg (Nat.not_le.2 h)
    rw [hpush]
    exact ⟨rfl, rfl⟩

end FallbackName

/-- **The longest part that fits.** A buffer of seven bytes that the two codes are written into, and
so the fallback name, holds the longest part of them that takes at most seven bytes. -/
theorem fallback_name_is_longest_part {β : Type} [TextBuffer β] (hbuffer : TextBuffer.Bounded β 7)
    (mcc mnc : String) :
    let codes := mcc ++ mnc
    let name := (FallbackName.ofCodes mcc mnc).text
    TextBuffer.text (TextBuffer.fill (TextBuffer.empty : β) (mcc.toList ++ mnc.toList)) = name ∧
      (∀ part, name = part ↔ LongestPart 7 codes part) ∧
      (name = codes ↔ codes.utf8ByteSize ≤ 7) ∧
      ((∀ c ∈ codes.toList, c.toNat < 128) → name = String.ofList (codes.toList.take 7)) ∧
      ∀ kept c rest, codes = kept ++ String.singleton c ++ rest → kept.utf8ByteSize ≤ 7 →
        7 < kept.utf8ByteSize + c.utf8Size → name = kept := by
  intro codes name
  have hname : name = String.ofList (fitting 7 codes.toList) :=
    FallbackName.text_ofCodes_eq_fitting mcc mnc
  refine ⟨?_, fun part => ?_, FallbackName.text_ofCodes_eq_append_iff,
    FallbackName.text_ofCodes_of_ascii, fun kept c rest hcodes hkept hrefused => ?_⟩
  · rw [hbuffer.text_fill, hbuffer.text_empty, ← String.toList_append, hname, String.empty_append]
    rfl
  · rw [longestPart_iff, ← hname, eq_comm]
  · have hlist : codes.toList = kept.toList ++ c :: rest.toList := by
      rw [hcodes, String.toList_append, String.toList_append, String.toList_singleton,
        List.append_assoc, List.singleton_append]
    rw [← String.ofList_toList (s := kept)] at hkept hrefused
    rw [hname, hlist, fitting_of_refused hkept hrefused, String.ofList_toList]

/-- A wide character is refused with one byte left, and the digit after it is dropped with it. -/
theorem wide_character_ends_name :
    TextBuffer.Bounded FallbackName 7 ∧
      (TextBuffer.fill (∅ : FallbackName) "24€0😀1".toList).text = "24€0" ∧
      LongestPart 7 "24€0😀1" "24€0" ∧ (FallbackName.ofCodes "24€" "0😀1").text = "24€0" := by
  obtain ⟨hfill, hlongest, -, -, hrefused⟩ :=
    fallback_name_is_longest_part FallbackName.bounded "24€" "0😀1"
  have hname := hrefused "24€0" '😀' "1" (by decide) (by decide) (by decide)
  exact ⟨FallbackName.bounded, hfill.trans hname, (hlongest _).1 hname, hname⟩

end SimIdentity
