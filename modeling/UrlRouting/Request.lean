import UrlRouting.Text.Lowercase
import UrlRouting.Url.Basic

/-!
# Requests

What a table is asked to match.  The host of a request is in small letters, except for the zone
of an address, and its path is never empty.
-/

namespace UrlRouting

/-- The parts of a URL that a request is made of. -/
structure Request where
  scheme : Text
  host : Text
  path : Text
  query : Text
  deriving Repr, DecidableEq

namespace Request

/-- A host in small letters.  A zone behind a percent sign is kept as it is. -/
def normalizedHost (host : Text) : Text :=
  Text.lowercase (Text.upTo '%' host) ++ host.dropWhile (· != '%')

/-- The request for a URL. -/
def ofUrl (t : Text) : Except UrlFault Request := do
  let url ← Url.parse t
  return {
    scheme := url.scheme
    host := normalizedHost (Url.hostOf url.authority)
    path := if url.path = [] then ['/'] else url.path
    query := url.query }

end Request

end UrlRouting
