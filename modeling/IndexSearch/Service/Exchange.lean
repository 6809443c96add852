import IndexSearch.Answer.Results
import IndexSearch.Json.Conversion
import IndexSearch.Json.Reader
import IndexSearch.Request.Basic
import IndexSearch.Service.Basic

namespace IndexSearch

open Text

/-!
# Exchanges with a search service

A search is one request over HTTP and one reply. The reply is given as data, so that an exchange is
a function: of the service, the index, the request and the reply. The request is taken to be one that
can be written, which `SearchRequest.sentText?` tells before.

* `Service.channel`, `Service.searchUrl` — what a request needs, or why it cannot be sent;
* `Service.receive` — what comes of a reply;
* `Service.exchange` — the two together;
* `Connection.search` — an exchange on a connection, which stays open.
-/

/-- How the network replies to a request. -/
inductive Reply where
  /-- The service answers with a status and a body. -/
  | answered (status : Nat) (body : List UInt8)
  /-- The exchange fails. -/
  | failed (message : String)
  /-- Something else goes wrong on the way, of the kind given by name. -/
  | interrupted (kind message : String)

/-- A request as it is sent. -/
structure SentRequest where
  /-- The URL. -/
  url : String
  /-- The headers that depend on the service and the request. -/
  headers : List (String × String)
  /-- The body. -/
  body : String
  /-- The time limit for the reply. -/
  timeout : Value

/-- Why a search has no answer. -/
inductive SearchError where
  /-- The service answered with another status than success. -/
  | refused (message : String) (status : Nat) (details : List (String × Value))
  /-- The exchange failed. -/
  | unreachable (reason baseUrl : String)
  /-- Something else went wrong on the way. -/
  | interrupted (kind message : String)
  /-- The service or the index has no URL. -/
  | url (e : UrlError)
  /-- The URL of the service does not begin with a scheme or what looks like one. -/
  | schemeless (url : String)
  /-- The key is of a kind that is no text. -/
  | keyKind (name : String)
  /-- The key holds characters beyond ASCII. -/
  | keyChars (characters : List Char) (position : Nat)
  /-- A time limit in parts lacks the part for reading. -/
  | timeoutParts
  /-- The body of the answer is no JSON. -/
  | body (e : Json.BodyError)

namespace SearchError

/-- A character as the code that stands for it in messages. -/
def charCode (c : Char) : String :=
  let n := c.toNat
  String.ofList
    (if n < 0x100 then '\\' :: 'x' :: hexDigits 2 n
    else if n < 0x10000 then '\\' :: 'u' :: hexDigits 4 n
    else '\\' :: 'U' :: hexDigits 8 n)

/-- The wording of the error. -/
def message : SearchError → String
  | refused message _ _ => message
  | unreachable reason _ => "HTTP error: " ++ reason
  | interrupted _ message => message
  | url e => e.message
  | schemeless address => "unknown url type: " ++ quoted address
  | keyKind name => "Header value must be str or bytes, not <class '" ++ name ++ "'>"
  | keyChars characters position =>
    let what := match characters with
      | [c] => "character '" ++ charCode c ++ "' in position " ++ toString position
      | cs => "characters in position " ++ toString position ++ "-"
          ++ toString (position + cs.length - 1)
    "'ascii' codec can't encode " ++ what ++ ": ordinal not in range(128)"
  | timeoutParts => "tuple index out of range"
  | body e => e.message

/-- The values that go with the error, for errors of the search itself. -/
def details? : SearchError → Option (List (String × Value))
  | refused _ _ details => some details
  | unreachable _ baseUrl => some [("base_url", .text baseUrl)]
  | _ => none

end SearchError

namespace Service

/-! ### Requests -/

/-- The time limit for reading: the second part of a limit given in parts. -/
def readTimeout (s : Service) : Except SearchError Value :=
  match s.timeout with
  | .tuple (_ :: read :: _) => .ok read
  | .tuple _ => .error .timeoutParts
  | v => .ok v

/-- The name of the kind of a value with the family that the kind belongs to. -/
def kindName : Value → String
  | .dateTime _ => "datetime.datetime"
  | .date _ => "datetime.date"
  | .decimal _ => "decimal.Decimal"
  | v => v.typeName

/-- The text of a string of bytes: as UTF-8 if it is valid, byte by byte otherwise. -/
def textOfBytes (bs : List UInt8) : String :=
  (decodeUtf8? bs).getD (String.ofList (bs.map fun b => Char.ofNat b.toNat))

/-- The header with the key, if there is a key; it must be a text of ASCII characters or bytes. -/
def keyHeader (s : Service) : Except SearchError (List (String × String)) :=
  if !s.apiKey.truthy then .ok []
  else match s.apiKey with
    | .bytes bs => .ok [("api-key", textOfBytes bs)]
    | .text k =>
      let isAscii := fun c : Char => c.toNat < 0x80
      match k.toList.dropWhile isAscii with
      | [] => .ok [("api-key", k)]
      | r =>
        let position := (k.toList.takeWhile isAscii).length
        .error (.keyChars (r.takeWhile fun c => !isAscii c) position)
    | v => .error (.keyKind (kindName v))

/-- The values of the parameter that asks for a version. -/
def versionTexts : Value → List String
  | .list xs | .tuple xs => xs.map versionText
  | v => [versionText v]
where
  /-- A value as the value of a parameter. -/
  versionText : Value → String
    | .bool b => if b then "true" else "false"
    | .null => ""
    | v => v.plain

/-- The query that asks for the version. -/
def versionQuery (s : Service) : List Char :=
  joinSegments '&' ((versionTexts s.apiVersion).map fun v =>
    "api-version=".toList ++ Url.encodeForm v.toList)

/-- The path of a search on an index, below the base URL. -/
def searchPath (index : String) : String := "/indexes/" ++ index ++ "/docs/search"

/-- The base URL, ending in a slash. -/
def base (s : Service) : Except UrlError Url := do
  (← Url.parse s.baseUrl.toList).withSlash

/-- The URL of a search on an index below the base URL. -/
def searchUrl (s : Service) (base : Url) (index : String) : Except UrlError Url := do
  let below ← base.join (← Url.parse (searchPath index).toList)
  below.withQuery s.versionQuery

/-- What has to be in order before the first request is sent. -/
structure Channel where
  /-- The base URL. -/
  base : Url
  /-- The header with the key. -/
  keyHeader : List (String × String)
  /-- The time limit for reading. -/
  timeout : Value

/-- Prepares for sending requests. -/
def channel (s : Service) : Except SearchError Channel := do
  let timeout ← s.readTimeout
  let base ← s.base.mapError .url
  let keyHeader ← s.keyHeader
  return ⟨base, keyHeader, timeout⟩

/-- The headers of a request. -/
def sentHeaders (c : Channel) : List (String × String) :=
  [("accept", "application/json"), ("user-agent", "azquery/0.1"),
    ("content-type", "application/json")] ++ c.keyHeader

/-! ### Replies -/

/-- The member of an object under a name, if it is one. -/
def memberOf? (name : String) : Json → Option Json
  | .object fields => Json.field? name fields
  | _ => none

/-- The error that a body reports, if it reports one. -/
def reportedError? (body : List UInt8) : Option Json :=
  match Json.ofBytes body with
  | .ok j => (memberOf? "error" j).bind fun e => match e with
    | .object _ => some e
    | _ => none
  | .error _ => none

/-- The part of a reported error under a name, if it is present. -/
def reportedPart? (name : String) (body : List UInt8) : Option Value :=
  ((reportedError? body).bind (memberOf? name)).bind fun j =>
    if j.toValue.truthy then some j.toValue else none

/-- The error for an answer with another status than success. -/
def refusal (index : Value) (status : Nat) (body : List UInt8) : SearchError :=
  let summary := "Search on index " ++ index.plain ++ " failed with status " ++ toString status
  let message := match reportedPart? "message" body with
    | some m => summary ++ ": " ++ m.plain
    | none => summary
  let code := match reportedPart? "code" body with
    | some c => [("code", c)]
    | none => []
  .refused message status (("index", index) :: code)

/-- Whether a status reports success. -/
def isSuccess (status : Nat) : Bool := 200 ≤ status && status < 300

/-- What comes of a reply to a request on an index that was sent to a URL. -/
def receive (s : Service) (index : Value) (url : Url) : Reply → Except SearchError Json
  | .failed message => .error (.unreachable message s.baseUrl)
  | .interrupted kind message => .error (.interrupted kind message)
  | .answered status body =>
    if !url.isNamed then .error (.schemeless (String.ofList url.toChars))
    else if isSuccess status then (Json.ofBytes body).mapError .body
    else .error (refusal index status body)

/-! ### Exchanges -/

/-- What comes of a search: its outcome, the requests sent, and whether a connection is open
    afterwards that may not have been before. -/
structure Exchange where
  /-- The body of the answer, or why there is none. -/
  outcome : Except SearchError Json
  /-- The requests sent, of which there is at most one. -/
  sent : List SentRequest
  /-- Whether a connection could be opened. -/
  opened : Bool

/-- Searches an index with a request that can be written. The reply is that of the network if the
    request is sent. -/
def exchange (s : Service) (index : Value) (r : SearchRequest) (reply : Reply) : Exchange :=
  match s.channel with
  | .error e => ⟨.error e, [], false⟩
  | .ok c =>
    match s.searchUrl c.base index.plain with
    | .error e => ⟨.error (.url e), [], true⟩
    | .ok url =>
      let request : SentRequest :=
        ⟨String.ofList url.toChars, sentHeaders c, r.sentText, c.timeout⟩
      ⟨s.receive index url reply, [request], true⟩

end Service

/-- A connection to a service, open from the first search until it is closed. -/
structure Connection where
  /-- The service. -/
  service : Service
  /-- Whether the connection is open. -/
  isOpen : Bool

namespace Connection

/-- A connection that is not open yet. -/
def ofService (s : Service) : Connection := ⟨s, false⟩

/-- Closes the connection. -/
def close (c : Connection) : Connection := { c with isOpen := false }

/-- Searches an index, opening the connection if it is not open. -/
def search (c : Connection) (index : Value) (r : SearchRequest) (reply : Reply) :
    Service.Exchange × Connection :=
  let x := c.service.exchange index r reply
  (x, { c with isOpen := c.isOpen || x.opened })

end Connection

end IndexSearch
