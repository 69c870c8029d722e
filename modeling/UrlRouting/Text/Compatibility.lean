import UrlRouting.Text.Ranges

/-!
# Characters that stand for a delimiter

The compatibility form of some characters contains a delimiter of URLs: a fullwidth solidus
reads as a solidus, "care of" as a c, a solidus and an o.  `delimiterRanges` lists them for the
delimiters `/`, `?`, `#`, `@` and `:`, after Unicode 14 and without the delimiters themselves.
-/

namespace UrlRouting.Text

/-- The characters whose compatibility form contains a delimiter. -/
def delimiterRanges : List (Nat × Nat) := [
  (0x2047, 0x2049), (0x2100, 0x2101), (0x2105, 0x2106), (0x2a74, 0x2a74), (0xfe13, 0xfe13),
  (0xfe16, 0xfe16), (0xfe55, 0xfe56), (0xfe5f, 0xfe5f), (0xfe6b, 0xfe6b), (0xff03, 0xff03),
  (0xff0f, 0xff0f), (0xff1a, 0xff1a), (0xff1f, 0xff20)]

/-- Whether the compatibility form of the character contains a delimiter although the character
is none. -/
def hidesDelimiter (c : Char) : Bool := inRanges delimiterRanges c.toNat

end UrlRouting.Text
