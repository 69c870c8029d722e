import UrlRouting.Text.Pieces

/-!
# Tokens of hosts and paths

A host is read as its tokens between dots, a path as its tokens between slashes.  An empty
host and an empty path have no token.  A path may open with one slash and close with one that
do not count, so `/`, the empty text and `//` are all empty paths.
-/

namespace UrlRouting

/-- The tokens of a host between its dots. -/
def hostTokens (host : Text) : List Text := if host = [] then [] else Text.splitAt '.' host

/-- A path without the slash that opens it. -/
def withoutOpeningSlash : Text → Text
  | '/' :: path => path
  | path => path

/-- A path without the slash that closes it. -/
def withoutClosingSlash (path : Text) : Text :=
  if path.getLast? = some '/' then path.dropLast else path

/-- The tokens of a path between its slashes. -/
def pathTokens (path : Text) : List Text :=
  let inner := withoutClosingSlash (withoutOpeningSlash path)
  if inner = [] then [] else Text.splitAt '/' inner

/-- The tokens of a host joined by dots are the host. -/
theorem join_hostTokens (host : Text) : Text.join ['.'] (hostTokens host) = host := by
  unfold hostTokens
  split
  · next h => exact h.symm
  · exact Text.join_splitAt '.' host

end UrlRouting
