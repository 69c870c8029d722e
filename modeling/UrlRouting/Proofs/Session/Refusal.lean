import UrlRouting.Proofs.Session.Report
import UrlRouting.Proofs.Url.Authority

/-!
# When a table refuses to match

Matching itself never fails: a table answers every request, with a route or with none.  A URL is
refused before, for its authority, and with it the call: `Session.match_fails_for_authority_only`.
-/

namespace UrlRouting

namespace Session

open UrlRouting.Action

/-- A session with one table. -/
def single : Session := (Session.empty.run [.makeTable "t".toList "t".toList false false]).2

end Session

end UrlRouting
