import UrlRouting.Text.Printable

/-!
# Quoted text

A text is shown between quotes in a single line.  The quotes are single ones, unless the text
holds a single quote and no double one.  The quote itself, the backslash and every character
that does not show as itself are escaped: `\n`, `\r` and `\t` by a letter, the others by the
shortest of `\x`, `\u` and `\U` with two, four or eight hexadecimal digits.
-/

namespace UrlRouting.Text

/-- A hexadecimal digit; letters are small. -/
def hexDigit (value : Nat) : Char :=
  if value < 10 then Char.ofNat (0x30 + value) else Char.ofNat (0x57 + value)

/-- The last `width` hexadecimal digits of a number. -/
def hexDigits : (width : Nat) → (value : Nat) → Text
  | 0, _ => []
  | width + 1, value => hexDigits width (value / 16) ++ [hexDigit (value % 16)]

/-- How a character is written between the given quotes. -/
def escaped (quote c : Char) : Text :=
  if c = quote || c = '\\' then ['\\', c]
  else if c = '\n' then ['\\', 'n']
  else if c = '\r' then ['\\', 'r']
  else if c = '\t' then ['\\', 't']
  else if isPrintable c then [c]
  else if c.toNat ≤ 0xff then '\\' :: 'x' :: hexDigits 2 c.toNat
  else if c.toNat ≤ 0xffff then '\\' :: 'u' :: hexDigits 4 c.toNat
  else '\\' :: 'U' :: hexDigits 8 c.toNat

/-- The quote that a text is put between. -/
def quoteFor (t : Text) : Char := if '\'' ∈ t && '"' ∉ t then '"' else '\''

/-- The text between quotes, in a single line. -/
def quoted (t : Text) : Text :=
  let quote := quoteFor t
  quote :: (t.flatMap (escaped quote) ++ [quote])

/-- As many digits are written as asked for. -/
theorem length_hexDigits (width value : Nat) : (hexDigits width value).length = width := by
  induction width generalizing value with
  | zero => rfl
  | succ width ih => simp [hexDigits, ih]

end UrlRouting.Text
