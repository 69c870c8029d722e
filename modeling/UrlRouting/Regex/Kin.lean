import UrlRouting.Text.Case

/-!
# Kindred letters

Letters with different lower forms that count as the same letter when case is ignored, because
they share an upper form.
-/

namespace UrlRouting.Regex

/-- The groups of lower forms that count as one letter. -/
def kinGroups : List (List Nat) := [
  [0x69, 0x131], [0x73, 0x17f], [0xb5, 0x3bc], [0x345, 0x3b9, 0x1fbe], [0x390, 0x1fd3],
  [0x3b0, 0x1fe3], [0x3b2, 0x3d0], [0x3b5, 0x3f5], [0x3b8, 0x3d1], [0x3ba, 0x3f0], [0x3c0, 0x3d6],
  [0x3c1, 0x3f1], [0x3c2, 0x3c3], [0x3c6, 0x3d5], [0x432, 0x1c80], [0x434, 0x1c81],
  [0x43e, 0x1c82], [0x441, 0x1c83], [0x442, 0x1c84, 0x1c85], [0x44a, 0x1c86], [0x463, 0x1c87],
  [0x1c88, 0xa64b], [0x1e61, 0x1e9b], [0xfb05, 0xfb06]]

/-- The other lower forms that count as the same letter. -/
def kin (code : Nat) : List Nat :=
  ((kinGroups.find? (code ∈ ·)).getD []).filter (· != code)

end UrlRouting.Regex
