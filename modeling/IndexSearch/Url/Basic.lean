import IndexSearch.Number.Numeral
import IndexSearch.Text.Blank
import IndexSearch.Url.HostName

namespace IndexSearch

open Number Text

/-!
# URLs

A URL has a scheme, user information, a host, a port, a path, a query and a fragment, most of which
may be absent. All parts are kept in the form in which they are sent: escaped, the scheme and the
host in lower case, and the port only where it is not the usual one for the scheme.

* `Url.parse` — reads a URL, or says why it is none;
* `Url.toChars` — the URL as it is sent;
* `Url.join` — the URL of a path below another URL;
* `Url.withQuery` — the URL with another query.
-/

/-- A URL in the form in which it is sent. -/
structure Url where
  /-- The scheme, empty if there is none. -/
  scheme : List Char
  /-- The user information, empty if there is none. -/
  userInfo : List Char
  /-- The host without brackets, empty if there is none. -/
  host : List Char
  /-- The port, unless it is the usual one. -/
  port : Option Int
  /-- The path. -/
  path : List Char
  /-- The query, which may be present and empty. -/
  query : Option (List Char)
  /-- The fragment, which may be present and empty. -/
  fragment : Option (List Char)
deriving DecidableEq

/-- Why a text is no URL. -/
inductive UrlError where
  /-- The text is too long. -/
  | tooLong
  /-- A part is too long after escaping. -/
  | partTooLong (part : String)
  /-- A control character occurs in the text. -/
  | control (c : Char) (position : Nat)
  /-- The host has no place in a URL. -/
  | host (e : Url.HostError)
  /-- The port is no number. -/
  | port (text : String)
  /-- A path after a host does not begin with a slash. -/
  | pathAfterHost
  /-- A path without a host begins with two slashes. -/
  | pathWithSlashes
  /-- A path without a scheme begins with a colon. -/
  | pathWithColon
deriving DecidableEq

/-- The wording of the error. -/
def UrlError.message : UrlError → String
  | tooLong => "URL too long"
  | partTooLong part => "URL component '" ++ part ++ "' too long"
  | control c position =>
    "Invalid non-printable ASCII character in URL, " ++ quoted (String.singleton c)
      ++ " at position " ++ toString position ++ "."
  | host e => e.message
  | port text => "Invalid port: " ++ quoted text
  | pathAfterHost => "For absolute URLs, path must be empty or begin with '/'"
  | pathWithSlashes => "Relative URLs cannot have a path starting with '//'"
  | pathWithColon => "Relative URLs cannot have a path starting with ':'"

namespace Url

/-- The greatest length of a URL and of each of its parts. -/
def maxLength : Nat := 65536

/-! ### Parts of a text -/

/-- Whether the character may stand in a scheme. -/
def isSchemeChar (c : Char) : Bool := c.isAlphanum || c = '+' || c = '.' || c = '-'

/-- Splits off a scheme, which begins with a letter or is empty, with its colon. -/
def splitScheme (cs : List Char) : List Char × List Char :=
  let name := cs.takeWhile isSchemeChar
  match cs.dropWhile isSchemeChar with
  | ':' :: r => if (name.head?.map Char.isAlpha).getD true then (name, r) else ([], cs)
  | _ => ([], cs)

/-- Splits off what stands between two slashes and the path. -/
def splitAuthority : List Char → List Char × List Char
  | '/' :: '/' :: r =>
    let inside := fun c : Char => c ≠ '/' && c ≠ '?' && c ≠ '#'
    (r.takeWhile inside, r.dropWhile inside)
  | cs => ([], cs)

/-- Splits the rest of a URL into path, query and fragment. -/
def splitPath (cs : List Char) : List Char × Option (List Char) × Option (List Char) :=
  let (front, fragment) := cutAtFirst '#' cs
  let (path, query) := cutAtFirst '?' front
  (path, query, fragment)

/-- Splits an authority without user information into a host and a port; a host in brackets may
    hold colons. -/
def splitHost (cs : List Char) : List Char × List Char :=
  let afterColon : List Char → List Char
    | ':' :: r => r
    | r => r
  match cs with
  | '[' :: _ =>
    match cutAtLast ']' cs with
    | (some inside, r) => (inside ++ [']'], afterColon r)
    | (none, _) => (cs.takeWhile (· ≠ ':'), afterColon (cs.dropWhile (· ≠ ':')))
  | _ => (cs.takeWhile (· ≠ ':'), afterColon (cs.dropWhile (· ≠ ':')))

/-- The usual port of a scheme. -/
def usualPort (scheme : List Char) : Option Int :=
  ([("ftp", 21), ("http", 80), ("https", 443), ("ws", 80), ("wss", 443)].find?
    fun p => p.1.toList = scheme).map Prod.snd

/-- The whole number that a port stands for; blanks around it, a sign and underscores between digits
    are accepted. -/
def portNumber? (cs : List Char) : Option Int :=
  let (negative, ds) := splitSign (trim cs)
  ((withoutUnderscores? ds).bind natOfChars?).map fun n => if negative then -(n : Int) else n

/-- The port of a URL, absent if it is empty or the usual one. -/
def portOf (scheme cs : List Char) : Except UrlError (Option Int) :=
  if cs.isEmpty then .ok none
  else match portNumber? cs with
    | none => .error (.port (String.ofList cs))
    | some n => .ok (if usualPort scheme = some n then none else some n)

/-! ### Paths -/

/-- Goes through the segments of a path, those done so far being listed backwards: `.` stands for
    nothing, and `..` takes the segment before it away, except the empty one at the beginning. -/
def resolveSegments (done : List (List Char)) : List (List Char) → List (List Char)
  | [] => done.reverse
  | s :: r =>
    if s = ['.'] then resolveSegments done r
    else if s = ['.', '.'] then resolveSegments (if done = [[]] then done else done.tail) r
    else resolveSegments (s :: done) r

/-- The path without `.` and `..` as segments. -/
def resolvePath (path : List Char) : List Char :=
  joinSegments '/' (resolveSegments [] (segments '/' path))

/-- Whether a path may stand where it does. -/
def checkPath (hasScheme hasAuthority : Bool) (path : List Char) : Except UrlError Unit :=
  if hasAuthority then
    if path.isEmpty || path.head? = some '/' then .ok () else .error .pathAfterHost
  else if hasScheme then .ok ()
  else match path with
    | '/' :: '/' :: _ => .error .pathWithSlashes
    | ':' :: _ => .error .pathWithColon
    | _ => .ok ()

/-! ### URLs -/

/-- The URL with the given parts, once they have been brought into the form to be sent. -/
def ofParts (scheme authority path : List Char) (query fragment : Option (List Char)) :
    Except UrlError Url := do
  let (user, place) := cutAtLast '@' authority
  let (hostText, portText) := splitHost place
  let userInfo := encodePart userSafe (user.getD [])
  let host ← (encodeHost hostText).mapError .host
  let port ← portOf scheme portText
  let hasScheme := !scheme.isEmpty
  let hasAuthority := !userInfo.isEmpty || !host.isEmpty || port.isSome
  checkPath hasScheme hasAuthority path
  let resolved := if hasScheme || hasAuthority then resolvePath path else path
  return ⟨scheme.map Char.toLower, userInfo, host, port, encodePart pathSafe resolved,
    query.map (encodePart querySafe), fragment.map (encodePart fragmentSafe)⟩

/-- Whether the character is a control character of ASCII. -/
def isControl (c : Char) : Bool := c.toNat < 0x20 || c.toNat = 0x7F

/-- Reads a URL. -/
def parse (cs : List Char) : Except UrlError Url := do
  if maxLength < cs.length then throw .tooLong
  match cs.dropWhile fun c => !isControl c with
  | c :: r => throw (.control c (cs.length - r.length - 1))
  | [] =>
    let (scheme, r) := splitScheme cs
    let (authority, r) := splitAuthority r
    let (path, query, fragment) := splitPath r
    ofParts scheme authority path query fragment

/-- User information, host and port as they are sent. -/
def authority (u : Url) : List Char :=
  (if u.userInfo.isEmpty then [] else u.userInfo ++ ['@'])
    ++ (if u.host.contains ':' then '[' :: u.host ++ [']'] else u.host)
    ++ (match u.port with
      | none => []
      | some n => ':' :: (toString n).toList)

/-- A query with its mark. -/
def queryChars : Option (List Char) → List Char
  | none => []
  | some q => '?' :: q

/-- The URL as it is sent. -/
def toChars (u : Url) : List Char :=
  (if u.scheme.isEmpty then [] else u.scheme ++ [':'])
    ++ (if u.authority.isEmpty then [] else '/' :: '/' :: u.authority)
    ++ u.path ++ queryChars u.query
    ++ (match u.fragment with
      | none => []
      | some f => '#' :: f)

/-- Whether the URL as it is sent begins with a name and a colon, as one with a scheme does. -/
def isNamed (u : Url) : Bool :=
  let isNameChar := fun c : Char => c ≠ '/' && c ≠ ':'
  !(u.toChars.takeWhile isNameChar).isEmpty
    && (u.toChars.dropWhile isNameChar).head? = some ':'

/-- The path, which is a slash at least, with the query. -/
def target (u : Url) : List Char :=
  (if u.path.isEmpty then ['/'] else u.path) ++ queryChars u.query

/-- The URL with another path and query. -/
def withPath (u : Url) (path : List Char) (query : Option (List Char)) : Except UrlError Url := do
  if maxLength < path.length then throw (.partTooLong "path")
  if maxLength < (query.getD []).length then throw (.partTooLong "query")
  ofParts u.scheme u.authority path query u.fragment

/-- The URL with another path and query, both given as one text. -/
def withTarget (u : Url) (target : List Char) : Except UrlError Url :=
  let (path, query) := cutAtFirst '?' target
  u.withPath path query

/-- The URL with a slash at the end of its path and query. -/
def withSlash (u : Url) : Except UrlError Url :=
  if u.target.getLast? = some '/' then .ok u else u.withTarget (u.target ++ ['/'])

/-- The URL of a path below another URL, which ends in a slash: the path and query of the one follow
    those of the other. -/
def join (base relative : Url) : Except UrlError Url :=
  base.withTarget (base.target ++ relative.target.dropWhile (· = '/'))

/-- The URL with another query. -/
def withQuery (u : Url) (query : List Char) : Except UrlError Url := u.withPath u.path (some query)

end Url

end IndexSearch
