import SiteStats.Deflate.Frame
import SiteStats.Http.Url
import SiteStats.Json.Writer

/-!
# Requests and replies

A request is an address and two headers. What comes back is a response, or a breakdown of the
transport before there is one. The transport itself is any function from requests to replies.

A header can name codings that were applied to the body of a response, one after the other. They are
taken off in the opposite order. Names that are not known count for nothing.
-/

namespace SiteStats.Http

/-! ## Status codes -/

/-- The phrases of the known status codes. -/
def reasonPhrases : List (Int × String) := [
  (100, "Continue"), (101, "Switching Protocols"), (102, "Processing"), (103, "Early Hints"),
  (200, "OK"), (201, "Created"), (202, "Accepted"), (203, "Non-Authoritative Information"),
  (204, "No Content"), (205, "Reset Content"), (206, "Partial Content"), (207, "Multi-Status"),
  (208, "Already Reported"), (226, "IM Used"),
  (300, "Multiple Choices"), (301, "Moved Permanently"), (302, "Found"), (303, "See Other"),
  (304, "Not Modified"), (305, "Use Proxy"), (307, "Temporary Redirect"),
  (308, "Permanent Redirect"),
  (400, "Bad Request"), (401, "Unauthorized"), (402, "Payment Required"), (403, "Forbidden"),
  (404, "Not Found"), (405, "Method Not Allowed"), (406, "Not Acceptable"),
  (407, "Proxy Authentication Required"), (408, "Request Timeout"), (409, "Conflict"),
  (410, "Gone"), (411, "Length Required"), (412, "Precondition Failed"),
  (413, "Request Entity Too Large"), (414, "Request-URI Too Long"),
  (415, "Unsupported Media Type"), (416, "Requested Range Not Satisfiable"),
  (417, "Expectation Failed"), (418, "I'm a teapot"), (421, "Misdirected Request"),
  (422, "Unprocessable Entity"), (423, "Locked"), (424, "Failed Dependency"), (425, "Too Early"),
  (426, "Upgrade Required"), (428, "Precondition Required"), (429, "Too Many Requests"),
  (431, "Request Header Fields Too Large"), (451, "Unavailable For Legal Reasons"),
  (500, "Internal Server Error"), (501, "Not Implemented"), (502, "Bad Gateway"),
  (503, "Service Unavailable"), (504, "Gateway Timeout"), (505, "HTTP Version Not Supported"),
  (506, "Variant Also Negotiates"), (507, "Insufficient Storage"), (508, "Loop Detected"),
  (510, "Not Extended"), (511, "Network Authentication Required")]

/-- The phrase of a status code; empty for an unknown one. -/
def reasonPhrase (status : Int) : String :=
  (reasonPhrases.lookup status).getD ""

/-- The status says that all went well. -/
def isSuccess (status : Int) : Bool :=
  200 ≤ status && status < 300

/-- What an answer with a status of that class is called when it is not a success. -/
def statusClass (status : Int) : String :=
  match status / 100 with
  | 1 => "Informational response"
  | 3 => "Redirect response"
  | 4 => "Client error"
  | 5 => "Server error"
  | _ => "Invalid status code"

/-- The status sends the asker to another address. -/
def isRedirect (status : Int) : Bool :=
  status ∈ [301, 302, 303, 307, 308]

/-! ## Messages -/

/-- A request as it is sent. Its method is always GET. -/
structure Request where
  url : Url
  authorization : String
  contentType : String
deriving DecidableEq, Repr

/-- The named values in the query of a request. -/
def Request.params (request : Request) : List (String × String) :=
  (Form.decode? (request.url.query.getD "")).getD []

/-- A response as it comes back. -/
structure Response where
  status : Int
  headers : List (String × String)
  body : List UInt8
deriving DecidableEq, Repr

/-- The value of a header, whose name is written in any case. When it comes more than once, the
values are joined by commas. -/
def Response.header? (response : Response) (name : String) : Option String :=
  match response.headers.filter fun header => header.1.map Char.toLower = name with
  | [] => none
  | found => some (", ".intercalate (found.map Prod.snd))

/-- The address that a response sends the asker to. -/
def Response.redirect? (response : Response) : Option String :=
  if isRedirect response.status then response.header? "location" else none

/-- A breakdown of the transport, by the name of its kind and with a message. -/
structure Breakdown where
  kind : String
  message : String
deriving DecidableEq, Repr

/-- What comes back for a request. -/
inductive Reply where
  | response (response : Response)
  | breakdown (breakdown : Breakdown)
deriving DecidableEq, Repr

/-- A way to send requests. -/
abbrev Transport := Request → Reply

/-- A response whose status is not a success, as answer to a request. -/
structure StatusFault where
  status : Int
  url : String
  redirect : Option String
deriving DecidableEq, Repr

/-- The text of a status fault. -/
def StatusFault.message (fault : StatusFault) : String :=
  let what := s!"{statusClass fault.status} '{fault.status} {reasonPhrase fault.status}'"
  let redirect :=
    match fault.redirect with
    | none => ""
    | some location => s!"Redirect location: '{location}'\n"
  s!"{what} for url '{fault.url}'\n" ++ redirect ++
    "For more information check: https://developer.mozilla.org/en-US/docs/Web/HTTP/Status/" ++
    toString fault.status

/-- The status fault of a response, unless its status is a success. -/
def Response.statusFault? (response : Response) (request : Request) : Option StatusFault :=
  if isSuccess response.status then none
  else some ⟨response.status, request.url.text, response.redirect?⟩

/-- What of a header value is not ASCII. -/
def headerFault? (value : String) : Option Text.Unencodable :=
  Text.unencodable? .ascii value

/-- The first fault among the names and values of a response's headers. -/
def Response.headerFault? (response : Response) : Option Text.Unencodable :=
  response.headers.findSome? fun header =>
    (Http.headerFault? header.1).or (Http.headerFault? header.2)

/-- The reply whose body is a text. A text that cannot be encoded breaks the transport down unless
the headers are wrong already. -/
def Reply.ofText (status : Int) (headers : List (String × String)) (text : Text) : Reply :=
  let response : Response := ⟨status, headers, []⟩
  match text.whole with
  | .ok s => .response { response with body := s.toList.flatMap String.utf8EncodeChar }
  | .error fault =>
    if response.headerFault?.isSome then .response response
    else .breakdown ⟨"UnicodeEncodeError", fault.message⟩

/-- The reply whose body is the text of a JSON value; null stands for no body. A double that is no
finite number has no text, and breaks the transport down unless the headers are wrong already. -/
def Reply.ofValue (status : Int) (headers : List (String × String)) (value : Value) : Reply :=
  let response : Response := ⟨status, headers, []⟩
  if let .null := value then .response response
  else if Json.isFinite value then .ofText status headers ⟨Json.write value⟩
  else if response.headerFault?.isSome then .response response
  else .breakdown ⟨"ValueError", "Out of range float values are not JSON compliant"⟩

/-! ## Content codings -/

/-- The codings that can be taken off. -/
inductive Coding where
  | identity
  | gzip
  | deflate
deriving DecidableEq, Repr

namespace Coding

/-- The coding with that name. -/
def ofName? (name : String) : Option Coding :=
  [("identity", identity), ("gzip", gzip), ("deflate", deflate)].lookup name

/-- Takes a coding off. Data in the coding `deflate` should stand in the short frame, but if it
cannot be read like that it is taken for bare data. -/
def decode (body : List UInt8) : Coding → Except Deflate.Fault (List UInt8)
  | identity => .ok body
  | gzip => Deflate.long body
  | deflate =>
    match Deflate.short body with
    | .ok octets => .ok octets
    | .error _ => Deflate.bare body

end Coding

/-- The codings of a response, in the order in which they were applied. -/
def Response.codings (response : Response) : List Coding :=
  (response.headers.filter fun header => header.1.map Char.toLower = "content-encoding").flatMap
    fun header => (header.2.toList.splitOn ',').filterMap fun name =>
      Coding.ofName? (String.ofList ((Text.trim Text.isSpace name).map Char.toLower))

/-- The body of a response without its codings. -/
def Response.plainBody (response : Response) : Except Deflate.Fault (List UInt8) :=
  response.codings.reverse.foldlM Coding.decode response.body

end SiteStats.Http
