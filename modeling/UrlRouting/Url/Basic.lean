import UrlRouting.Pattern.Scheme
import UrlRouting.Text.Compatibility
import UrlRouting.Text.Pieces
import UrlRouting.Text.Quoted
import UrlRouting.Url.Address

/-!
# URLs

A URL is cut at its first delimiters: the scheme ends at the first colon, the authority goes
from two slashes to the next `/`, `?` or `#`, the fragment starts at the first `#` and the query
at the first `?` before it.  Blanks in front, tabs and line ends do not count.

An authority is refused when its brackets do not surround an address, and when one of its
characters looks like a delimiter.
-/

namespace UrlRouting

/-- Why a URL is refused. -/
inductive UrlFault
  /-- A bracket stands alone or does not surround the host. -/
  | brackets
  /-- The address of a future version in brackets has the wrong form. -/
  | futureAddress
  /-- An address of version 4 stands in brackets. -/
  | version4InBrackets
  /-- What stands in brackets is no address. -/
  | notAnAddress (host : Text)
  /-- A character of the authority hides a delimiter. -/
  | hiddenDelimiter (authority : Text)
  deriving Repr, DecidableEq

/-- The wording of a refusal. -/
def UrlFault.message : UrlFault → Text
  | brackets => ("Invalid IPv6 URL" : Text)
  | futureAddress => ("IPvFuture address is invalid" : Text)
  | version4InBrackets => ("An IPv4 address cannot be in brackets" : Text)
  | notAnAddress host =>
      Text.quoted host ++ (" does not appear to be an IPv4 or IPv6 address" : Text)
  | hiddenDelimiter authority =>
      ("netloc '" : Text) ++ authority ++
        ("' contains invalid characters under NFKC normalization" : Text)

/-- A URL by its parts, without its fragment. -/
structure Url where
  scheme : Text
  authority : Text
  path : Text
  query : Text
  deriving Repr, DecidableEq

namespace Url

/-- The text without the characters up to the space in front, and without tabs and line ends. -/
def cleaned (t : Text) : Text :=
  (t.dropWhile (·.toNat ≤ 0x20)).filter fun c => c != '\t' && c != '\r' && c != '\n'

/-- The scheme in front of the first colon, in small letters, and what follows the colon.  If
what stands there is no scheme, there is none. -/
def schemeAndRest (t : Text) : Text × Text :=
  let scheme := Text.upTo ':' t
  if ':' ∈ t ∧ isScheme scheme then (scheme.map Char.toLower, Text.beyond ':' t) else ([], t)

/-- Whether the character ends an authority. -/
def endsAuthority (c : Char) : Bool := c == '/' || c == '?' || c == '#'

/-- The authority behind two slashes, and what follows it. -/
def authorityAndRest : Text → Text × Text
  | '/' :: '/' :: t => (t.takeWhile (!endsAuthority ·), t.dropWhile (!endsAuthority ·))
  | t => ([], t)

/-- The host and the port of an authority, without what stands in front of the last `@`. -/
def hostAndPort (authority : Text) : Text := Text.afterLast '@' authority

/-- What stands between the brackets, if the first bracket opens the host and nothing but a
port follows the second one; what stands in front of the colon, if there is no bracket. -/
def bracketed? (authority : Text) : Option Text :=
  match hostAndPort authority with
  | '[' :: inner =>
      let port := Text.beyond ']' inner
      if port = [] ∨ port.head? = some ':' then some (Text.upTo ']' inner) else none
  | t => if '[' ∈ t then none else some (Text.upTo ':' t)

/-- Checks the brackets of an authority. -/
def checkBrackets (authority : Text) : Except UrlFault Unit :=
  if '[' ∉ authority ∧ ']' ∉ authority then .ok ()
  else if '[' ∉ authority ∨ ']' ∉ authority then .error .brackets
  else
    match bracketed? authority with
    | none => .error .brackets
    | some host =>
        if host.head? = some 'v' then
          if Address.isFuture host then .ok () else .error .futureAddress
        else if Address.isVersion4 host then .error .version4InBrackets
        else if Address.isVersion6 host then .ok ()
        else .error (.notAnAddress host)

/-- Checks that no character of an authority hides a delimiter. -/
def checkCharacters (authority : Text) : Except UrlFault Unit :=
  if authority.any Text.hidesDelimiter then .error (.hiddenDelimiter authority) else .ok ()

/-- Reads a URL. -/
def parse (t : Text) : Except UrlFault Url := do
  let (scheme, rest) := schemeAndRest (cleaned t)
  let (authority, rest) := authorityAndRest rest
  checkBrackets authority
  checkCharacters authority
  let rest := Text.upTo '#' rest
  return { scheme, authority, path := Text.upTo '?' rest, query := Text.beyond '?' rest }

/-- The host of an authority as it is written: between the brackets, or in front of the port. -/
def hostOf (authority : Text) : Text :=
  let t := hostAndPort authority
  if '[' ∈ t then Text.upTo ']' (Text.beyond '[' t) else Text.upTo ':' t

end Url

end UrlRouting
