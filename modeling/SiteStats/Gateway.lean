import SiteStats.Config.Basic
import SiteStats.Http.Exchange
import SiteStats.Http.Reference
import SiteStats.Query.Params

/-!
# The gateway

A gateway sends requests for one configuration and sorts out what comes back. Every request carries
the key in a header and the site as its last parameter. A response whose body is an object with an
`error` is that error, whatever its status; any other response with a status that is no success
fails for its status, and only then for a body that cannot be read. A body with too many levels ends
its reading before the status is looked at.

The address to which a response sends the asker is not asked, but it is worked out, and what is
wrong with it is a failure.
-/

namespace SiteStats

open Http

/-! ## Redirects -/

namespace Http.Redirect

/-- The name of an address's host. -/
def hostName (url : Url) : Except Failure String :=
  url.hostName.mapError .domain

/-- An address with the host of the request in place of its own if it has a scheme but no host. -/
def withHost (request url : Url) : Except Failure Url := do
  if url.scheme = "" then return url
  if (← hostName url) ≠ "" then return url
  let host ← hostName request
  (Url.rebuild { url.parts with authority := { url with host }.authority }).mapError .url

/-- The address that is meant when it is found in the answer to a request. -/
def resolve (request url : Url) : Except Failure Url :=
  if url.isAbsolute then .ok url
  else
    (request.resolve url).mapError fun fault =>
      match fault with
      | .address fault => .url fault
      | fault => .reference fault

/-- An address with the fragment of the request if it has none itself. -/
def withFragment (request url : Url) : Except Failure Url :=
  let fragment := request.fragment.getD ""
  if fragment ≠ "" ∧ url.fragment.getD "" = "" then
    let fragment := some (Text.ofString (Percent.unescapeLossy fragment.toList))
    (Url.rebuild { url.parts with fragment }).mapError .url
  else .ok url

/-- The address that a location in the answer to a request stands for. The name of its host has to
be one. -/
def target (request : Url) (location : String) : Except Failure Url := do
  let url ← (Url.parse location).mapError .redirect
  let url ← withHost request url
  let url ← resolve request url
  let url ← withFragment request url
  let _ ← hostName url
  return url

end Http.Redirect

namespace Gateway

/-! ## Requests -/

/-- Parameters of any kind, before they are written as texts. -/
abbrev RawParams := List (String × Value)

/-- The record of a gateway that was set up. -/
def opened (config : Config) : Log.Record :=
  ⟨.info, .gateway,
    s!"Initialized StatsRepository for site: {config.siteId} (" ++ config.baseUrl ++ ")"⟩

/-- The parameters of a request: those given, and the site. -/
def allParams (config : Config) (params : RawParams) : RawParams :=
  params ++ [(Wire.siteId, .text config.siteId)]

/-- Parameters of texts as parameters of any kind. -/
def rawParams (params : Query.Params) : RawParams :=
  params.map fun param => (param.1, .text param.2)

/-- The parameters, those of one name side by side where the first of them stands. -/
def grouped {α : Type} (params : List (String × α)) : List (String × α) :=
  (params.map Prod.fst).eraseDups.flatMap fun name =>
    params.filter fun param => param.1 = name

/-- Parameters as they are noted down, each in the form in which its kind can be seen. -/
def shownParams (params : List (String × String)) : String :=
  let shown := params.map fun param => s!"({Text.quoted param.1}, {param.2})"
  "[" ++ ", ".intercalate shown ++ "]"

/-- What is noted down before anything is done. -/
def pathRecord (config : Config) (path : String) : Log.Record :=
  ⟨.debug, .gateway, "GET " ++ config.endpoint path⟩

/-- What is noted down about the parameters. -/
def paramsRecord (params : List (String × String)) : Log.Record :=
  ⟨.debug, .gateway, s!"With params: {shownParams params}"⟩

/-- What stands in the header that identifies the caller: the name and password of the address if it
has any, otherwise the key. -/
def authorization (config : Config) (url : Url) : String :=
  match url.credentials? with
  | some (name, password) => "Basic " ++ Base64.encode (name ++ ":" ++ password)
  | none => config.authorization

/-- The address that a path is asked for at, before there are parameters behind it. It is read
first, with the name of its host if it is absolute; then the key has to fit into its header. -/
def address (config : Config) (path : String) : Except Failure Url := do
  let url ← (Url.parse (config.endpoint path)).mapError .url
  if url.scheme ≠ "" then
    let _ ← url.hostName.mapError .domain
  let url ← url.target.mapError .url
  if let some fault := headerFault? config.authorization then throw (.unencodable fault)
  return url

/-- The request for an address with parameters behind it. In the end the host has to fit into a
header. -/
def requestAt (config : Config) (url : Url) (params : Query.Params) : Except Failure Request := do
  let pairs ← params.mapM fun param => (param.2.whole.map (param.1, ·)).mapError .unencodable
  let url ← (url.withQuery (Form.encode pairs)).mapError .url
  if let some fault := headerFault? url.location then throw (.unencodable fault)
  return ⟨url, authorization config url, Wire.json⟩

/-- Builds a request: the parameters are written as texts and put behind the address. -/
def request (config : Config) (path : String) (params : RawParams) : Except Failure Request := do
  let url ← address config path
  requestAt config url ((grouped params).map fun param => (param.1, param.2.sent))

/-! ## Responses -/

/-- The error that a body says of itself: the `error` of an object, if it counts as true. -/
def errorOf? (payload : Value) : Option Value :=
  (payload.field? Wire.error).filter Value.truthy

section

variable [Json.Room]

/-- What a response with the given body comes to. -/
def classify (request : Request) (response : Response) (body : List UInt8) : Except Failure Value :=
  match Json.readBody body with
  | .ok payload =>
    match errorOf? payload with
    | some message => .error (.api message response.status)
    | none =>
      match response.statusFault? request with
      | some fault => .error (.status fault)
      | none => .ok payload
  | .error (.beyond (.nesting container)) => .error (.body (.beyond (.nesting container)))
  | .error fault =>
    match response.statusFault? request with
    | some fault => .error (.status fault)
    | none => .error (.body fault)

/-- What is noted down about a response: the error that it says of itself. It comes from a body that
was read, and can be written out. -/
def responseLog (path : String) : Except Failure Value → List Log.Record
  | .error (.api message status) =>
    [⟨.error, .gateway, s!"Stats API error ({status}) for {path}: " ++ message.display⟩]
  | _ => []

/-- What a reply to a request comes to. A response needs headers in ASCII and a body whose codings
can be taken off, and the address of the request a scheme; then a redirect is looked at, and at last
the body. -/
def resultOf (request : Request) : Reply → Except Failure Value
  | .breakdown cause => .error (.breakdown cause)
  | .response response => do
    if let some fault := response.headerFault? then throw (.unencodable fault)
    let body ← response.plainBody.mapError .coding
    if request.url.scheme = "" then throw (.noScheme request.url.text)
    if let some location := response.redirect? then
      let _ ← Redirect.target request.url location
    classify request response body

/-- Asks for a path with parameters, which have to be such that they can be noted down. -/
def get (config : Config) (transport : Transport) (path : String) (params : RawParams) :
    Exchange Value :=
  let params := allParams config params
  let shown := params.mapM fun param => (Failure.written param.2 Value.shown).map (param.1, ·)
  match shown with
  | .error failure => ⟨.error failure, none, [pathRecord config path]⟩
  | .ok shown =>
    let log := [pathRecord config path, paramsRecord shown]
    match request config path params with
    | .error failure => ⟨.error failure, none, log⟩
    | .ok request =>
      let result := resultOf request (transport request)
      ⟨result, some request, log ++ responseLog path result⟩

end

end Gateway

end SiteStats
