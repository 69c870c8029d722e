import UrlRouting.Pattern.Scheme
import UrlRouting.Pattern.Segment
import UrlRouting.Pattern.Tokens

/-!
# URL patterns

A pattern is read in three parts.

* With a scheme in front, as in `http://{company}.com/{area}`, the host goes up to the next
  slash and the path begins behind it.
* With a slash in front it is a path.
* Otherwise a lone token with a dot in it, as in `{company}.com`, is a host, and everything
  else is a path, `v1.2/{controller}` included.

A question mark and what follows it do not count.
-/

namespace UrlRouting

/-- A pattern by its parts: no slash, dot or question mark that separates is left in them. -/
structure Pattern where
  scheme : Option Text
  host : List Segment
  path : List Segment
  deriving Repr, DecidableEq

namespace Pattern

/-- The scheme, the host and the path that a pattern without a query is written with. -/
def parts (t : Text) : Option Text × Text × Text :=
  match schemeAndRest? t with
  | some (scheme, rest) => (some scheme, Text.upTo '/' rest, Text.beyond '/' rest)
  | none =>
      let head := Text.upTo '/' t
      if '.' ∈ head ∧ Text.beyond '/' t = [] then (none, head, []) else (none, [], t)

/-- Reads a pattern. -/
def parse (t : Text) : Pattern :=
  let (scheme, host, path) := parts (Text.upTo '?' t)
  { scheme
    host := (hostTokens host).map Segment.ofToken
    path := (pathTokens path).map Segment.ofToken }

/-- The pattern that may have been written; without one it is empty. -/
def ofWritten (written : Option Text) : Pattern := parse (written.getD [])

/-- All segments, those of the host first. -/
def segments (p : Pattern) : List Segment := p.host ++ p.path

end Pattern

/-- The names of the variables in the order of their segments. -/
def Pattern.variables (p : Pattern) : List Text := p.segments.filterMap Segment.name?

end UrlRouting
