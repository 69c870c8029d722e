import UrlRouting.Text.Digit
import UrlRouting.Text.Pieces

/-!
# Addresses in brackets

What stands between the brackets of a host is an IP address of version 6, or one of a future
version: a `v`, hexadecimal digits, a point and a text.

An address of version 6 has eight groups of one to four hexadecimal digits between colons.  One
run of groups may be left out between two colons, an address of version 4 may stand for the
last two groups, and a zone may follow behind a percent sign.
-/

namespace UrlRouting.Address

/-- Whether the text is a number from 0 to 255 in at most three digits, without a needless zero
in front. -/
def isOctet (t : Text) : Bool :=
  t != [] && t.all Text.isAsciiDigit && t.length ≤ 3 && (t == ['0'] || t.head? != some '0') &&
    Text.natInBase 10 t ≤ 255

/-- Whether the text is an address of version 4: four octets between dots. -/
def isVersion4 (t : Text) : Bool :=
  let octets := Text.splitAt '.' t
  octets.length == 4 && octets.all isOctet

/-- Whether the text is a group of an address of version 6. -/
def isGroup (t : Text) : Bool := t != [] && t.length ≤ 4 && t.all Text.isHexDigit

/-- The parts of an address between its colons, an address of version 4 at its end counted as
two groups. -/
def groups? (t : Text) : Option (List Text) :=
  let parts := Text.splitAt ':' t
  match parts.getLast? with
  | some last =>
      if '.' ∈ last then
        if isVersion4 last then some (parts.dropLast ++ [['0'], ['0']]) else none
      else some parts
  | none => none

/-- The groups in front of an omission: none if the address opens with it. -/
def groupsBefore (parts : List Text) : List Text := if parts = [[]] then [] else parts

/-- Whether the parts are the groups of an address.  The first empty part behind the first part
and before the last one stands for the omitted groups, of which there is at least one. -/
def areGroups (parts : List Text) : Bool :=
  let inner := parts.tail.dropLast
  if [] ∈ inner then
    let front := 1 + (inner.takeWhile (· != [])).length
    let high := groupsBefore (parts.take front)
    let low := groupsBefore (parts.drop (front + 1))
    inner.count [] == 1 && high.all isGroup && low.all isGroup && high.length + low.length ≤ 7
  else parts.length == 8 && parts.all isGroup

/-- Whether the text is an address of version 6. -/
def isVersion6 (t : Text) : Bool :=
  let zone := Text.beyond '%' t
  let address := Text.upTo '%' t
  (('%' ∉ t) || (zone != [] && '%' ∉ zone)) && (Text.splitAt ':' address).length ≥ 3 &&
    (groups? address).any areGroups

/-- Whether the text is an address of a future version. -/
def isFuture (t : Text) : Bool :=
  match t with
  | 'v' :: rest =>
      let version := rest.takeWhile Text.isHexDigit
      match rest.drop version.length with
      | '.' :: behind => version != [] && behind != []
      | _ => false
  | _ => false

end UrlRouting.Address
