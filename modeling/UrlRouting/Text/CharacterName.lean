import UrlRouting.Text.Names.Aliases
import UrlRouting.Text.Names.From0020
import UrlRouting.Text.Names.From0F99
import UrlRouting.Text.Names.From11213
import UrlRouting.Text.Names.From13000
import UrlRouting.Text.Names.From1B000
import UrlRouting.Text.Names.From1D00
import UrlRouting.Text.Names.From1D7CE
import UrlRouting.Text.Names.From1F780
import UrlRouting.Text.Names.From2860
import UrlRouting.Text.Names.FromA000
import UrlRouting.Text.Names.FromFDF0
import UrlRouting.Text.Digit

/-!
# Characters by name

A character is found by its name in Unicode 14, whatever the case of the letters.  The names of
Hangul syllables are spelled from the names of their parts, and those of ideographs end in their
code point; of these, the names of syllables and of unified ideographs are known in capital
letters only.
-/

namespace UrlRouting.Text

/-- What follows a beginning in a text, if the text has that beginning. -/
def stripStart? : (beginning : Text) → Text → Option Text
  | [], t => some t
  | c :: cs, d :: t => if c = d then stripStart? cs t else none
  | _ :: _, [] => none

/-- The names in a line of a table. -/
def namesOfLine (line : String) : List String := line.splitOn ";"

/-- The names of an entry, which stand between semicolons and line ends. -/
def namesOfEntry (names : String) : List String := (names.splitOn "\n").flatMap namesOfLine

/-- The character that has a name in a table: each entry gives the first of some characters in a
row and their names. -/
def findName (entries : List (Nat × String)) (name : String) : Option Nat :=
  entries.findSome? fun e => ((namesOfEntry e.2).idxOf? name).map (e.1 + ·)

/-- The tables of names. -/
def nameTables : List (List (Nat × String)) :=
  [namesFrom0020, namesFrom0F99, namesFrom1D00, namesFrom2860, namesFromA000, namesFromFDF0,
    namesFrom11213, namesFrom13000, namesFrom1B000, namesFrom1D7CE, namesFrom1F780]

/-- The character that has a name, or goes by it, in the tables. -/
def listed? (name : String) : Option Nat :=
  (nameTables.findSome? (findName · name)).or
    ((aliases.find? fun e => (namesOfEntry e.2).contains name).map Prod.fst)

/-! ## Ideographs -/

/-- The number that hexadecimal digits in capital letters write. -/
def natOfCapitalHex? (digits : Text) : Option Nat :=
  if digits.all fun c => isAsciiDigit c || ('A' ≤ c && c ≤ 'F') then
    some (natInBase 16 digits)
  else none

/-- The ranges of the unified ideographs. -/
def unifiedIdeographRanges : List (Nat × Nat) := [
  (0x3400, 0x4dbf), (0x4e00, 0x9fff), (0x20000, 0x2a6df), (0x2a700, 0x2b738), (0x2b740, 0x2b81d),
  (0x2b820, 0x2cea1), (0x2ceb0, 0x2ebe0), (0x30000, 0x3134a)]

/-- The unified ideograph whose code point is written with four or five digits. -/
def unifiedIdeograph? (digits : Text) : Option Nat :=
  if digits.length = 4 ∨ digits.length = 5 then
    (natOfCapitalHex? digits).filter (inRanges unifiedIdeographRanges)
  else none

/-- The characters whose names end in their code point: the beginning of the name, and the
ranges. -/
def codedNames : List (String × List (Nat × Nat)) := [
  ("CJK COMPATIBILITY IDEOGRAPH-", [(0xf900, 0xfa6d), (0xfa70, 0xfad9), (0x2f800, 0x2fa1d)]),
  ("KHITAN SMALL SCRIPT CHARACTER-", [(0x18b00, 0x18cd5)]),
  ("NUSHU CHARACTER-", [(0x1b170, 0x1b2fb)])]

/-- The character whose name ends in its code point, in capital letters and without a needless
digit. -/
def coded? (name : Text) : Option Nat :=
  codedNames.findSome? fun e => do
    let digits ← stripStart? e.1.toList name
    let code ← natOfCapitalHex? digits
    if inRanges e.2 code && digits.length == (if code ≤ 0xffff then 4 else 5) then some code
    else none

/-! ## Hangul syllables -/

/-- The names of the leading consonants in order. -/
def leadNames : List String :=
  ["G", "GG", "N", "D", "DD", "R", "M", "B", "BB", "S", "SS", "", "J", "JJ", "C", "K", "T", "P",
    "H"]

/-- The names of the vowels in order. -/
def vowelNames : List String :=
  ["A", "AE", "YA", "YAE", "EO", "E", "YEO", "YE", "O", "WA", "WAE", "OE", "YO", "U", "WEO", "WE",
    "WI", "YU", "EU", "YI", "I"]

/-- The names of the trailing consonants in order; the first one is none. -/
def tailNames : List String :=
  ["", "G", "GG", "GS", "N", "NJ", "NH", "D", "L", "LG", "LM", "LB", "LS", "LT", "LP", "LH", "M",
    "B", "BS", "S", "SS", "NG", "J", "C", "K", "T", "P", "H"]

/-- The place of the longest name that a text begins with, and what follows it.  `index` is the
place of the first name, and `best` what has been found before. -/
def longestName (t : Text) : List String → (index : Nat) → (best : Option (Nat × Text)) →
    Option (Nat × Text)
  | [], _, best => best
  | name :: names, index, best =>
      match stripStart? name.toList t, best with
      | some rest, some (i, shortest) =>
          longestName t names (index + 1)
            (if rest.length < shortest.length then some (index, rest) else some (i, shortest))
      | some rest, none => longestName t names (index + 1) (some (index, rest))
      | none, _ => longestName t names (index + 1) best

/-- The syllable that is spelled from the names of its parts. -/
def syllable? (t : Text) : Option Nat := do
  let (lead, t) ← longestName t leadNames 0 none
  let (vowel, t) ← longestName t vowelNames 0 none
  let (tail, t) ← longestName t tailNames 0 none
  if t = [] then some (0xac00 + (lead * 21 + vowel) * 28 + tail) else none

/-! ## All characters -/

/-- The character that a name stands for. -/
def named? (name : Text) : Option Nat :=
  match stripStart? ("HANGUL SYLLABLE " : Text) name,
      stripStart? ("CJK UNIFIED IDEOGRAPH-" : Text) name with
  | some parts, _ => syllable? parts
  | none, some digits => unifiedIdeograph? digits
  | none, none =>
      let name := name.map Char.toUpper
      (coded? name).or (listed? (String.ofList name))

end UrlRouting.Text
