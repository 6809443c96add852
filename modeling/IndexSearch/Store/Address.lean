import IndexSearch.Url.Basic
import IndexSearch.Value.Shown

namespace IndexSearch

open Number Text

/-!
# Addresses of key-value servers

The address of a server is a URL with one of three schemes. `StoreAddress.check` says whether a
value is such an address; options in the query that are numbers have to be given as numbers.
-/

/-- Why a value is no address of a server. -/
inductive AddressError where
  /-- The scheme is none of the three. -/
  | scheme
  /-- The port is no number. -/
  | portText (text : String)
  /-- The port is too large. -/
  | portSize
  /-- A bracket has no partner. -/
  | bracket
  /-- An option has a value that it cannot have. -/
  | option (name : String)
  /-- The value is of a kind that is no text. -/
  | kind (typeName : String)
deriving DecidableEq

/-- The wording of the error. -/
def AddressError.message : AddressError → String
  | scheme =>
    "Redis URL must specify one of the following schemes (redis://, rediss://, unix://)"
  | portText text => "Port could not be cast to integer value as " ++ quoted text
  | portSize => "Port out of range 0-65535"
  | bracket => "Invalid IPv6 URL"
  | option name => "Invalid value for '" ++ name ++ "' in connection URL."
  | kind typeName => "'" ++ typeName ++ "' object has no attribute 'decode'"

namespace StoreAddress

/-- The schemes of addresses with a port. -/
def schemes : List String := ["redis", "rediss"]

/-- The options that are whole numbers. -/
def intOptions : List String := ["db", "max_connections", "health_check_interval"]

/-- The options that are numbers. -/
def realOptions : List String := ["socket_timeout", "socket_connect_timeout", "timeout"]

/-- The text that a part of a query stands for. -/
def decoded (cs : List Char) : List Char :=
  let bytes := Url.decodePart (cs.map fun c => if c = '+' then ' ' else c)
  ((decodeUtf8? bytes).map String.toList).getD cs

/-- The options of a query with their values; an option without a value is none. -/
def options (query : List Char) : List (String × List Char) :=
  (segments '&' query).filterMap fun piece =>
    match cutAtFirst '=' piece with
    | (name, some v) => if v.isEmpty then none else some (String.ofList (decoded name), decoded v)
    | _ => none

/-- Whether a value may be given to an option. -/
def goodOption (name : String) (v : List Char) : Bool :=
  if intOptions.contains name then (Url.portNumber? v).isSome
  else if realOptions.contains name then (Binary64.ofChars? (trim v)).isSome
  else true

/-- Checks the options, each name with its first value. -/
def checkOptions (query : List Char) : Except AddressError Unit :=
  match (options query).find? fun (n, v) => !goodOption n v with
  | some (n, _) => .error (.option n)
  | none => .ok ()

/-- Checks the port, which is what follows the first colon after the user information, or after the
    brackets. -/
def checkPort (authority : List Char) : Except AddressError Unit :=
  let place := (cutAtLast '@' authority).2
  let afterBrackets := match cutAtFirst '[' place with
    | (_, some r) => ((cutAtFirst ']' r).2).getD []
    | _ => place
  match (cutAtFirst ':' afterBrackets).2 with
  | none => .ok ()
  | some port =>
    if port.isEmpty then .ok ()
    else match natOfChars? port with
      | none => .error (.portText (String.ofList port))
      | some n => if 65535 < n then .error .portSize else .ok ()

/-- Checks an address. -/
def checkChars (cs : List Char) : Except AddressError Unit := do
  let cs := (cs.dropWhile fun c => c.toNat ≤ 0x20).filter fun c => c ≠ '\t' && c ≠ '\n' && c ≠ '\r'
  let (scheme, r) := Url.splitScheme cs
  let (authority, r) := Url.splitAuthority r
  let (_, query, _) := Url.splitPath r
  if authority.contains '[' != authority.contains ']' then throw .bracket
  checkOptions (query.getD [])
  let scheme := String.ofList (scheme.map Char.toLower)
  if scheme = "unix" then return ()
  if !schemes.contains scheme then throw .scheme
  checkPort authority

/-- Checks a value as an address. -/
def check : Value → Except AddressError Unit
  | .text s => checkChars s.toList
  | .bytes _ => .error .scheme
  | v => if v.truthy then .error (.kind v.typeName) else .error .scheme

end StoreAddress

end IndexSearch
