import SiteStats.Http.Host
import SiteStats.Text.Quoted

/-!
# Addresses

An address is taken apart into scheme, user, host, a number behind the host, path, query and
fragment, and each part is brought into its normal form: scheme and host in lower case, no number
where it is the usual one of the scheme, and escapes for what may not stand in a part. `Url.parse`
reads a text, `Url.rebuild` reads the parts of an address once more after some of them have been
replaced.
-/

namespace SiteStats.Http

/-- Why a text is no address. -/
inductive UrlFault where
  | tooLong
  | partTooLong (part : String)
  | control (c : Char) (position : Nat)
  | partControl (part : String) (c : Char) (position : Nat)
  | host (fault : Host.Fault)
  | portNumber (text : Text)
  | pathNotRooted
  | relativeSlashes
  | relativeColon
  | unencodable (fault : Text.Unencodable)
deriving DecidableEq, Repr

/-- The text of an address fault. -/
def UrlFault.message : UrlFault → String
  | tooLong => "URL too long"
  | partTooLong part => s!"URL component '{part}' too long"
  | control c position =>
    let shown := Text.quoted c.toString
    s!"Invalid non-printable ASCII character in URL, {shown} at position {position}."
  | partControl part c position =>
    let shown := Text.quoted c.toString
    s!"Invalid non-printable ASCII character in URL {part} component, {shown} at " ++
      s!"position {position}."
  | host (.ipv4 text) =>
    let shown := Text.quoted text
    s!"Invalid IPv4 address: {shown}"
  | host (.ipv6 text) =>
    let shown := Text.quoted text
    s!"Invalid IPv6 address: {shown}"
  | host (.name text) =>
    let shown := Text.quoted text
    s!"Invalid IDNA hostname: {shown}"
  | portNumber text =>
    let shown := Text.quoted text
    s!"Invalid port: {shown}"
  | pathNotRooted => "For absolute URLs, path must be empty or begin with '/'"
  | relativeSlashes => "Relative URLs cannot have a path starting with '//'"
  | relativeColon => "Relative URLs cannot have a path starting with ':'"
  | unencodable fault => fault.message

/-- The parts of an address in their normal form. -/
structure Url where
  scheme : String
  user : String
  host : String
  portNumber : Option Int
  path : String
  query : Option String
  fragment : Option String
deriving DecidableEq, Repr

/-- The parts of an address as they are written. -/
structure UrlParts where
  scheme : String
  authority : Text
  path : Text
  query : Option Text
  fragment : Option Text
deriving DecidableEq, Repr

namespace UrlParts

/-- The longest text that is read as an address, or as a part of one. -/
def maxLength : Nat := 65536

/-- A character that a scheme can consist of. -/
def inScheme (c : Char) : Bool :=
  c.isAlphanum || c == '+' || c == '.' || c == '-'

/-- The scheme before the first colon, if what stands there is one. -/
def splitScheme (s : List Point) : List Char × List Point :=
  let front := (s.takeWhile fun point => point.char?.any inScheme).filterMap Point.char?
  match s.drop front.length with
  | .char ':' :: rest =>
    if front.isEmpty || front.head?.any Char.isAlpha then (front, rest) else ([], s)
  | _ => ([], s)

/-- Cuts a text into its parts. Every text can be cut. -/
def split (text : Text) : UrlParts :=
  let (scheme, s) := splitScheme text.toList
  let inAuthority (point : Point) : Bool := point != '/' && point != '?' && point != '#'
  let (authority, s) :=
    match s with
    | .char '/' :: .char '/' :: rest => (rest.takeWhile inAuthority, rest.dropWhile inAuthority)
    | s => ([], s)
  let inPath (point : Point) : Bool := point != '?' && point != '#'
  let (path, s) := (s.takeWhile inPath, s.dropWhile inPath)
  let inQuery (point : Point) : Bool := point != '#'
  let (query, s) :=
    match s with
    | .char '?' :: rest => (some (Text.mk (rest.takeWhile inQuery)), rest.dropWhile inQuery)
    | s => (none, s)
  let fragment :=
    match s with
    | .char '#' :: rest => some (Text.mk rest)
    | _ => none
  { scheme := String.ofList scheme
    authority := ⟨authority⟩
    path := ⟨path⟩
    query := query
    fragment := fragment }

/-- The user before the last at sign, the host, and what follows it as a number. -/
def splitAuthority (authority : Text) : Text × Text × Text :=
  let s := authority.toList
  let behind := (s.reverse.takeWhile (· != .char '@')).reverse
  let user := if s.contains '@' then s.take (s.length - behind.length - 1) else []
  let hostLength :=
    if behind.head? = some '[' ∧ behind.contains ']' then
      behind.length - (behind.reverse.takeWhile (· != .char ']')).length
    else (behind.takeWhile (· != .char ':')).length
  let rest := behind.drop hostLength
  let number := if rest.head? = some ':' then rest.drop 1 else rest
  (⟨user⟩, ⟨behind.take hostLength⟩, ⟨number⟩)

/-- The number that is left out of an address of that scheme. -/
def usualNumber (scheme : String) : Option Int :=
  [("ftp", 21), ("http", 80), ("https", 443), ("ws", 80), ("wss", 443)].lookup scheme

/-- The whole number that the text behind a host stands for. -/
def number? (text : String) : Option Int :=
  let trimmed := Text.trim Text.isBlank (text.toList.map Text.asciiDigit)
  match Numeral.dropUnderscores? none trimmed with
  | some numeral =>
    if (Numeral.splitSign numeral).2.length > Numeral.maxDigits then none else Numeral.int? numeral
  | none => none

/-- The number behind a host, none if it is the usual one of the scheme. -/
def readNumber (text : Text) (scheme : String) : Except UrlFault (Option Int) :=
  if text = "" then .ok none
  else
    match text.string?.bind number? with
    | some n => .ok (if usualNumber scheme = some n then none else some n)
    | none => .error (.portNumber text)

/-- The path without its segments `.`, and without `..` and the segment before it. -/
def resolveDots (path : Text) : Text :=
  let segments := path.toList.splitOn (.char '/')
  if segments.any fun s => s = [.char '.'] ∨ s = [.char '.', .char '.'] then
    let kept := segments.foldl (fun kept segment =>
      if segment = [.char '.'] then kept
      else if segment = [.char '.', .char '.'] then
        (if kept = [] ∨ kept = [[]] then kept else kept.dropLast)
      else kept ++ [segment]) []
    ⟨[.char '/'].intercalate kept⟩
  else path

/-- A printable ASCII character. -/
def isVisible (c : Char) : Bool :=
  0x20 ≤ c.toNat && c.toNat < 0x7F

/-- The characters that stand for themselves in a fragment. -/
def inFragment (c : Char) : Bool :=
  isVisible c && c ∉ [' ', '"', '<', '>', '\x60']

/-- The characters that stand for themselves in a query. -/
def inQuery (c : Char) : Bool :=
  isVisible c && c ∉ [' ', '"', '#', '<', '>']

/-- The characters that stand for themselves in a path. -/
def inPath (c : Char) : Bool :=
  inQuery c && c ∉ ['?', '\x60', '\x7b', '\x7d']

/-- The characters that stand for themselves in the user part. -/
def inUser (c : Char) : Bool :=
  inPath c && c ∉ ['/', ';', '=', '@', '[', '\\', ']', '^', '|']

/-- The fault of a path, which has to fit what stands before it. -/
def pathFault? (path : Text) (hasScheme hasAuthority : Bool) : Option UrlFault :=
  let s := path.toList
  if hasAuthority && !s.isEmpty && s.head? != some '/' then some .pathNotRooted
  else if !hasScheme && !hasAuthority then
    if s.take 2 = [.char '/', .char '/'] then some .relativeSlashes
    else if s.head? = some ':' then some .relativeColon
    else none
  else none

/-- A part as it is written where some characters stand for themselves. -/
def escaped (safe : Char → Bool) (part : Text) : Except UrlFault String :=
  (Percent.escapeText safe part).mapError .unencodable

/-- A part that may be missing as it is written. -/
def escaped? (safe : Char → Bool) : Option Text → Except UrlFault (Option String)
  | none => .ok none
  | some part => (escaped safe part).map some

/-- The parts in their normal form. -/
def normalize (parts : UrlParts) : Except UrlFault Url := do
  let scheme := parts.scheme.map Char.toLower
  let (user, host, number) := splitAuthority parts.authority
  let user ← escaped inUser user
  let host ← (Host.normalize host).mapError .host
  let portNumber ← readNumber number parts.scheme
  let hasScheme := scheme != ""
  let hasAuthority := user != "" || host != "" || portNumber.isSome
  match pathFault? parts.path hasScheme hasAuthority with
  | some fault => .error fault
  | none =>
    let path ← escaped inPath
      (if hasScheme || hasAuthority then resolveDots parts.path else parts.path)
    let query ← escaped? inQuery parts.query
    let fragment ← escaped? inFragment parts.fragment
    return { scheme, user, host, portNumber, path, query, fragment }

/-- The first control character of a text and its position. -/
def control? (text : Text) : Option (Char × Nat) :=
  let front := text.toList.takeWhile fun point => point.char?.all isVisible || 0x80 ≤ point.toNat
  (text.toList.drop front.length).head?.bind fun point => point.char?.map fun c => (c, front.length)

/-- The first fault of parts that were put together by hand: one is too long, or has a control
character. -/
def partFault? (parts : UrlParts) : Option UrlFault :=
  let named : List (String × Text) :=
    [("scheme", parts.scheme), ("authority", parts.authority), ("path", parts.path),
      ("query", parts.query.getD ""), ("fragment", parts.fragment.getD "")]
  named.findSome? fun (name, text) =>
    if text.toList.length > maxLength then some (.partTooLong name)
    else (control? text).map fun (c, position) => .partControl name c position

end UrlParts

namespace Url

/-- Host and number as they are written. -/
def location (url : Url) : String :=
  (if url.host.contains ':' then "[" ++ url.host ++ "]" else url.host) ++
    (match url.portNumber with
      | none => ""
      | some number => ":" ++ toString number)

/-- User, host and number as they are written. -/
def authority (url : Url) : String :=
  (if url.user = "" then "" else url.user ++ "@") ++ url.location

/-- The name of the host, which is read if it is written in Punycode. -/
def hostName (url : Url) : Except Domain.Fault String :=
  if url.host.startsWith "xn--" then Domain.read url.host else .ok url.host

/-- The address as one text. -/
def text (url : Url) : String :=
  let authority := url.authority
  (if url.scheme = "" then "" else url.scheme ++ ":") ++
    (if authority = "" then "" else "//" ++ authority) ++ url.path ++
    (match url.query with
      | none => ""
      | some query => "?" ++ query) ++
    (match url.fragment with
      | none => ""
      | some fragment => "#" ++ fragment)

/-- The address that a text stands for. -/
def parse (text : Text) : Except UrlFault Url :=
  if text.toList.length > UrlParts.maxLength then .error .tooLong
  else
    match UrlParts.control? text with
    | some (c, position) => .error (.control c position)
    | none => (UrlParts.split text).normalize

/-- The parts of an address as they are written, to be changed and read again. -/
def parts (url : Url) : UrlParts where
  scheme := url.scheme
  authority := url.authority
  path := url.path
  query := url.query.map .ofString
  fragment := url.fragment.map .ofString

/-- Reads parts that come from an address. -/
def rebuild (parts : UrlParts) : Except UrlFault Url :=
  match parts.partFault? with
  | some fault => .error fault
  | none => parts.normalize

/-- An address says where to go when it has a scheme and a host. -/
def isAbsolute (url : Url) : Bool :=
  url.scheme != "" && url.host != ""

/-- The address that is asked for when nothing else is known: one that is not absolute is cut down
to its path and its query, with one slash in front. -/
def target (url : Url) : Except UrlFault Url :=
  if url.isAbsolute then .ok url
  else
    let path := if url.path = "" then "/" else url.path
    let rooted := "/" ++ String.ofList (path.toList.dropWhile (· == '/'))
    rebuild ⟨"", "", rooted, url.query.map .ofString, none⟩

/-- The address with this query in place of its own. -/
def withQuery (url : Url) (query : Option String) : Except UrlFault Url :=
  rebuild { url.parts with query := query.map .ofString }

/-- The name and the password of the user part, if there is any. -/
def credentials? (url : Url) : Option (String × String) :=
  let user := url.user.toList
  let name := user.takeWhile (· != ':')
  let password := user.drop (name.length + 1)
  if name.isEmpty && password.isEmpty then none
  else some (Percent.unescapeLossy name, Percent.unescapeLossy password)

end Url

end SiteStats.Http
