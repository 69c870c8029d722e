/-!
# Sets of characters given by ranges

A property of characters that no short rule describes is written as the ascending list of
its ranges of code points.  `inRanges` looks a code point up, and `not_inRanges_of_lt` spares the
search where the code point stands in front of all ranges.
-/

namespace UrlRouting

/-- A text is the list of its characters, so that every rule about texts is a recursion on
its data. -/
abbrev Text := List Char

instance : Coe String Text := ⟨String.toList⟩

namespace Text

/-- Whether a code point lies in one of the ranges.  The ranges ascend, so the search ends
at the first one that begins behind the code point. -/
def inRanges : List (Nat × Nat) → Nat → Bool
  | [], _ => false
  | (first, last) :: ranges, code =>
      if code < first then false
      else if code ≤ last then true
      else inRanges ranges code

/-- A code point in front of the first range is not found. -/
theorem not_inRanges_of_lt {first last code : Nat} {ranges : List (Nat × Nat)}
    (h : code < first) : inRanges ((first, last) :: ranges) code = false := by
  simp [inRanges, h]

end Text

end UrlRouting
