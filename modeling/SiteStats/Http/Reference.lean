import SiteStats.Http.Url

/-!
# References

An address can be given relative to another one: without its scheme, without its host, or as a path
that continues the other one's. `Url.resolve` puts the two together and reads the result as an
address of its own.
-/

namespace SiteStats.Http

/-- Why a reference cannot be put together with an address. -/
inductive ReferenceFault where
  | brackets
  | future
  | bracketedIpv4
  | bracketedName (name : Text)
  | address (fault : UrlFault)
deriving DecidableEq, Repr

/-- The text of a reference fault. -/
def ReferenceFault.message : ReferenceFault → String
  | brackets => "Invalid IPv6 URL"
  | future => "IPvFuture address is invalid"
  | bracketedIpv4 => "An IPv4 address cannot be in brackets"
  | bracketedName name =>
    let shown := Text.quoted name
    s!"{shown} does not appear to be an IPv4 or IPv6 address"
  | address fault => fault.message

namespace Reference

/-- The schemes whose addresses can be continued by a reference. -/
def hierarchical : List String := [
  "", "ftp", "http", "gopher", "nntp", "imap", "wais", "file", "https", "shttp", "mms", "prospero",
  "rtsp", "rtsps", "rtspu", "sftp", "svn", "svn+ssh", "ws", "wss"]

/-- An address of a kind still to come: `v`, hexadecimal digits, a point, and something behind it.
-/
def isFuture (s : List Point) : Bool :=
  match s with
  | .char 'v' :: rest =>
    let version := rest.takeWhile fun point => (point.char?.bind Json.hexDigit?).isSome
    let behind := rest.drop version.length
    !version.isEmpty && behind.head? = some '.' && behind.length > 1
  | _ => false

/-- The fault of the brackets between which a host stands, if there are any. -/
def bracketFault? (authority : List Point) : Option ReferenceFault :=
  if authority.contains '[' != authority.contains ']' then some .brackets
  else if authority.contains '[' then
    let inner := ((authority.dropWhile (· != .char '[')).drop 1).takeWhile (· != .char ']')
    let chars := inner.filterMap Point.char?
    if inner.head? = some 'v' then if isFuture inner then none else some .future
    else if Host.isIpv4 chars then some .bracketedIpv4
    else if Host.isIpv6 chars then none
    else some (.bracketedName ⟨inner⟩)
  else none

/-- The segments of a path behind those of another one, whose last segment is left out unless it is
empty. Only the first and the last may be empty. -/
def continued (base path : List Point) : List (List Point) :=
  let before := base.splitOn (.char '/')
  let before := if before.getLast? = some [] then before else before.dropLast
  match before ++ path.splitOn (.char '/') with
  | [] => []
  | first :: rest =>
    first :: (rest.dropLast.filter fun segment => !segment.isEmpty) ++ rest.getLast?.toList

/-- The path that a reference leads to: segments of one point are left out, and those of two points
take the one before with them. -/
def mergePath (base path : List Point) : List Point :=
  let segments := if path.head? = some '/' then path.splitOn (.char '/') else continued base path
  let kept := segments.foldl (fun kept segment =>
    if segment = [.char '.', .char '.'] then kept.dropLast
    else if segment = [.char '.'] then kept
    else kept ++ [segment]) []
  let isOpen :=
    segments.getLast?.any fun segment => segment = [.char '.'] ∨ segment = [.char '.', .char '.']
  let merged := [.char '/'].intercalate (if isOpen then kept ++ [[]] else kept)
  if merged.isEmpty then ['/'] else merged

/-- The text of an address with these parts, behind whose host the path starts with a slash. Empty
parts are left out. -/
def text (parts : UrlParts) : Text :=
  let path :=
    if parts.path != "" && parts.path.toList.head? != some '/' then "/" ++ parts.path
    else parts.path
  let part (mark : String) (value : Option Text) : Text :=
    if value.getD "" = "" then "" else mark ++ value.getD ""
  parts.scheme ++ "://" ++ parts.authority ++ path ++ part "?" parts.query ++
    part "#" parts.fragment

/-- The text of the address that a reference leads to from an address. -/
def joined (base reference : Text) : Except ReferenceFault Text := do
  if reference = "" then return base
  let from' := UrlParts.split base
  let parts := UrlParts.split reference
  if let some fault := bracketFault? parts.authority.toList then throw fault
  let scheme := if parts.scheme = "" then from'.scheme else parts.scheme.map Char.toLower
  if scheme ≠ from'.scheme ∨ scheme ∉ hierarchical then return reference
  if parts.authority ≠ "" then return text { parts with scheme }
  let parts : UrlParts := { parts with scheme, authority := from'.authority }
  if parts.path = "" then
    let query := if parts.query.getD "" = "" then from'.query else parts.query
    return text { parts with path := from'.path, query }
  else
    return text { parts with path := ⟨mergePath from'.path.toList parts.path.toList⟩ }

end Reference

/-- The address that another one, which may be relative, stands for when it is found at this one. -/
def Url.resolve (url reference : Url) : Except ReferenceFault Url := do
  let text ← Reference.joined url.text reference.text
  (Url.parse text).mapError .address

end SiteStats.Http
