import UrlRouting.Text.Ranges

/-!
# Blanks

The characters that count as white space: those of the bidirectional types `WS`, `B` and `S`
or of the general category `Zs` of Unicode 14.
-/

namespace UrlRouting.Text

/-- The ranges of the blanks. -/
def blankRanges : List (Nat × Nat) := [
  (0x9, 0xd), (0x1c, 0x20), (0x85, 0x85), (0xa0, 0xa0), (0x1680, 0x1680), (0x2000, 0x200a),
  (0x2028, 0x2029), (0x202f, 0x202f), (0x205f, 0x205f), (0x3000, 0x3000)]

/-- Whether the code point is that of a blank. -/
def isBlank (code : Nat) : Bool := inRanges blankRanges code

/-- The blanks of ASCII that separate words: space, tab, line feed, line tabulation, form feed
and carriage return. -/
def isAsciiBlank (code : Nat) : Bool := code == 0x20 || (0x9 ≤ code && code ≤ 0xd)

end UrlRouting.Text
