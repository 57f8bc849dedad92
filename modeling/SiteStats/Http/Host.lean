import SiteStats.Http.Domain.Name
import SiteStats.Http.Encoding
import SiteStats.Number.Numeral

/-!
# Hosts

The host of an address is four numbers, an IPv6 address in brackets, or a name. Four numbers and
IPv6 addresses are kept as they are but have to be right. A name is written in lower case; one with
characters beyond ASCII has to be a valid domain name, and its ASCII form stands in the address.
-/

namespace SiteStats.Http.Host

/-- Why a text is no host. -/
inductive Fault where
  | ipv4 (host : Text)
  | ipv6 (host : Text)
  | name (host : Text)
deriving DecidableEq, Repr

/-! ## Numeric hosts -/

/-- Four runs of digits with points between them. -/
def looksLikeIpv4 (s : List Char) : Bool :=
  let parts := s.splitOn '.'
  parts.length = 4 && parts.all fun part => !part.isEmpty && part.all Numeral.isDigit

/-- A number from 0 to 255 in at most three digits without leading zeros. -/
def isIpv4Part (s : List Char) : Bool :=
  !s.isEmpty && s.all Numeral.isDigit && s.length ≤ 3 && (s.length = 1 || s.head? != some '0') &&
    Numeral.ofDigits s ≤ 255

/-- Four numbers with points between them. -/
def isIpv4 (s : List Char) : Bool :=
  let parts := s.splitOn '.'
  parts.length = 4 && parts.all isIpv4Part

/-- A group of an IPv6 address. -/
def isIpv6Group (s : List Char) : Bool :=
  !s.isEmpty && s.length ≤ 4 && s.all fun c => (Json.hexDigit? c).isSome

/-- The groups of an IPv6 address, of which the last may be four numbers and then counts as two. -/
def ipv6Groups? (s : List Char) : Option (List (List Char)) :=
  let parts := s.splitOn ':'
  match parts.getLast? with
  | some last =>
    if last.contains '.' then
      if isIpv4 last then some (parts.dropLast ++ [['0'], ['0']]) else none
    else some parts
  | none => none

/-- Eight groups, or fewer with one gap that is written as two colons. Behind a percent sign may
follow the name of a zone. -/
def isIpv6 (s : List Char) : Bool :=
  let (address, zone) := (s.takeWhile (· != '%'), s.dropWhile (· != '%'))
  let zoneFits := zone.isEmpty || (zone.length > 1 && !(zone.drop 1).contains '%')
  match ipv6Groups? address with
  | none => false
  | some groups =>
    let inner := (groups.drop 1).dropLast
    let gaps := inner.countP List.isEmpty
    let first := groups.head?.getD []
    let last := groups.getLast?.getD []
    zoneFits && 3 ≤ groups.length && groups.length ≤ 9 && gaps ≤ 1 &&
      (groups.all fun g => g.isEmpty || isIpv6Group g) &&
      (if gaps = 1 then
        (groups.filter (!·.isEmpty)).length < 8 &&
          (!first.isEmpty || (groups.drop 1).head? = some []) &&
          (!last.isEmpty || groups.dropLast.getLast? = some [])
      else groups.length = 8 && !first.isEmpty && !last.isEmpty)

/-! ## Names -/

/-- The characters that stand for themselves in a name. -/
def isNameChar (c : Char) : Bool :=
  Percent.isUnreserved c || c ∈ ['!', '$', '&', '\'', '(', ')', '*', '+', ',', ';', '='] ||
    c ∈ ['"', '\x60', '\x7b', '\x7d', '%', '|', '\\']

/-- A host stands in brackets. -/
def isBracketed (host : List Point) : Bool :=
  host.head? = some '[' ∧ host.getLast? = some ']'

/-- A host without halves as it is written in an address, an IPv6 address without its brackets. -/
def normalizeString (host : String) : Except Fault String :=
  let s := host.toList
  if host = "" then .ok ""
  else if looksLikeIpv4 s then
    if isIpv4 s then .ok host else .error (.ipv4 host)
  else if isBracketed (Text.ofString host).toList then
    let inner := (s.drop 1).dropLast
    if isIpv6 inner then .ok (String.ofList inner) else .error (.ipv6 host)
  else if s.all (·.toNat < 0x80) then .ok (Percent.escape isNameChar (host.map Char.toLower))
  else
    match Domain.write host with
    | .ok name => .ok name
    | .error _ => .error (.name host)

/-- A host as it is written in an address. None has a half in it. -/
def normalize (host : Text) : Except Fault String :=
  match host.string? with
  | some s => normalizeString s
  | none => .error (if isBracketed host.toList then .ipv6 host else .name host)

end SiteStats.Http.Host
