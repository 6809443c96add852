import IndexSearch.Json.Conversion
import IndexSearch.Json.Reader
import IndexSearch.Json.Writer
import IndexSearch.Store.Address
import IndexSearch.Store.Server

namespace IndexSearch

open Text

/-!
# The link to a key-value server

A `Link` reads and writes values on a server, as JSON, while it is connected; otherwise it finds
nothing and writes nothing. Its functions take the server as it is and return it as it is
afterwards.

* `Link.connect`, `Link.close` — connect and disconnect;
* `Link.get`, `Link.set`, `Link.deleteMatching` — read, write and remove.
-/

/-- Why a link could not do what it was asked to do. -/
inductive LinkError where
  /-- The server failed. -/
  | server (e : ServerError)
  /-- A value has no JSON. -/
  | unwritten (e : JsonError)
  /-- A stored text holds a whole number that is too long. -/
  | unread (e : Json.SyntaxError)
  /-- The address is none. -/
  | address (e : AddressError)

/-- The wording of the error. -/
def LinkError.message : LinkError → String
  | server e => e.message
  | unwritten e => e.message
  | unread e => e.message
  | address e => e.message

/-- A link to a key-value server. -/
structure Link where
  /-- The address of the server. -/
  url : Value
  /-- Whether the link is connected. -/
  connected : Bool

namespace Link

/-- A link that is not connected yet. -/
def ofUrl (url : Value) : Link := ⟨url, false⟩

/-- Connects and asks the server to answer. A bad address leaves the link as it was; a server that
    does not answer leaves it closed. -/
def connect (l : Link) (s : Server) : Except LinkError Unit × Link :=
  match StoreAddress.check l.url with
  | .error e => (.error (.address e), l)
  | .ok () =>
    match s.ping with
    | .error e => (.error (.server e), { l with connected := false })
    | .ok () => (.ok (), { l with connected := true })

/-- Disconnects. -/
def close (l : Link) : Link := { l with connected := false }

/-- The value that a stored text stands for, unless it holds a whole number that is too long. A text
    that is no JSON stands for itself. -/
def decode (s : String) : Except LinkError Value :=
  match Json.read s with
  | .ok j => .ok j.toValue
  | .error e =>
    match e.fault with
    | .digits _ => .error (.unread e)
    | _ => .ok (.text s)

/-- The text under which a value is stored. -/
def textOfValue (v : Value) : Except JsonError String :=
  v.toJson.map (Json.write Json.spaced)

/-- The value under a key, null if there is none. -/
def get (l : Link) (s : Server) (key : String) : Except LinkError Value :=
  if !l.connected then .ok .null
  else match s.get key with
    | .error e => .error (.server e)
    | .ok none => .ok .null
    | .ok (some t) => decode t

/-- Puts a value under a key for a time. -/
def set (l : Link) (s : Server) (key : String) (v expiry : Value) : Except LinkError Server :=
  if !l.connected then .ok s
  else match textOfValue v with
    | .error e => .error (.unwritten e)
    | .ok t => (s.set key t expiry).mapError .server

/-- Removes keys one by one and counts those that were there; an error ends the removal. -/
def deleteAll (s : Server) : List String → Except LinkError Nat × Server
  | [] => (.ok 0, s)
  | k :: r =>
    match s.delete k with
    | .error e => (.error (.server e), s)
    | .ok (n, s) =>
      match deleteAll s r with
      | (.ok m, s) => (.ok (n + m), s)
      | (.error e, s) => (.error e, s)

/-- Removes all keys that match a pattern, as the server reads it, and counts them. -/
def deleteMatchingBy (l : Link) (s : Server) (pattern : String) (m : Matcher) :
    Except LinkError Nat × Server :=
  if !l.connected then (.ok 0, s)
  else match s.scan pattern m with
    | .error e => (.error (.server e), s)
    | .ok keys => deleteAll s keys

/-- Removes all keys that match a pattern and counts them. -/
def deleteMatching (l : Link) (s : Server) (pattern : String) : Except LinkError Nat × Server :=
  l.deleteMatchingBy s pattern matchesPattern

/-- Reads a key on a link that is connected for it and closed afterwards. -/
def getOnce (l : Link) (s : Server) (key : String) : Except LinkError Value × Link :=
  match l.connect s with
  | (.error e, l) => (.error e, l)
  | (.ok (), l) => (l.get s key, l.close)

end Link

end IndexSearch
