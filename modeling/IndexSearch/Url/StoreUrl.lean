import IndexSearch.Url.Basic
import IndexSearch.Url.GroupedAddress
import IndexSearch.Validation.Checked

namespace IndexSearch

open Text

/-!
# URLs of key-value servers

In settings the URL of a key-value server may lack its host, port and path. `StoreUrl.read` reads
such a URL, completes it and brings it into normal form, or says what is wrong with it.

* `StoreUrl.parse` — reads a URL of any scheme;
* `StoreUrl.complete` — checks the scheme and fills in the absent parts.
-/

namespace StoreUrl

/-! ### The place of the server -/

/-- The characters that may stand in the user information, the colon between its parts apart. -/
def userSafe (c : Char) : Bool := Url.userSafe c && c ≠ ':'

/-- User information: a name, and a password that is not empty. -/
def userInfo (cs : List Char) : List Char :=
  let (name, password) := cutAtFirst ':' cs
  let name := Url.encodePart userSafe name
  match password with
  | none | some [] => name
  | some p => name ++ ':' :: Url.encodePart userSafe p

/-- The characters that may not stand in a host. -/
def hostExcluded : List Char :=
  ['\x00', '\t', '\n', '\r', ' ', '#', '/', ':', '<', '>', '?', '@', '[', '\\', ']', '^', '|']

/-- The host as it is written: an address in its normal form without brackets, or a name, whose case
    is kept. -/
def hostOf (cs : List Char) : Except UrlFault (List Char) :=
  match cs with
  | '[' :: r =>
    if r.getLast? = some ']' then
      match Url.groupsOf? r.dropLast with
      | some groups => .ok (Url.writeGroups groups)
      | none => .error .groups
    else .error .groups
  | _ =>
    if cs.any hostExcluded.contains then .error .hostCharacter
    else .ok (cs.flatMap fun c => if Url.asciiExcept [] c then [c] else Url.escapeChar c)

/-- Splits what stands before the port from the port; colons within brackets do not count. -/
def splitPort (inside : Bool) : List Char → List Char × Option (List Char)
  | [] => ([], none)
  | c :: r =>
    if c = ':' && !inside then ([], some r)
    else
      let (host, port) := splitPort (if c = '[' then true else if c = ']' then false else inside) r
      (c :: host, port)

/-- The greatest port. -/
def maxPort : Nat := 65535

/-- The port, absent if it is empty. -/
def portOf (cs : List Char) : Except UrlFault (Option Int) :=
  if cs.isEmpty then .ok none
  else match Number.natOfChars? cs with
    | none => .error .port
    | some n => if maxPort < n then .error .port else .ok (some n)

/-- The user information, host and port in an authority, which another part follows or not. Where
    there is one of the others, there must be a host. -/
def placeOf (authority : List Char) (followed : Bool) :
    Except UrlFault (List Char × List Char × Option Int) := do
  let (user, place) := cutAtLast '@' authority
  if user = some [] && place.isEmpty && followed then throw .hostless
  let userInfo := userInfo (user.getD [])
  let (hostText, portText) := splitPort false place
  let host ← hostOf hostText
  if host.isEmpty && portText.isSome then throw .hostless
  let port ← portOf (portText.getD [])
  if host.isEmpty && !userInfo.isEmpty then throw .hostless
  return (userInfo, host, port)

/-! ### The path -/

/-- Whether a segment stands for the place where it is. -/
def isHere (s : List Char) : Bool := [".", "%2e"].contains (String.ofList (s.map Char.toLower))

/-- Whether a segment stands for the place above. -/
def isAbove (s : List Char) : Bool :=
  ["..", ".%2e", "%2e.", "%2e%2e"].contains (String.ofList (s.map Char.toLower))

/-- Goes through the segments of a path, those done so far being listed backwards. After a last
    segment that stands for a place, an empty one remains. -/
def resolve (done : List (List Char)) : List (List Char) → List (List Char)
  | [] => done.reverse
  | [s] =>
    if isHere s then ([] :: done).reverse
    else if isAbove s then ([] :: done.tail).reverse
    else (s :: done).reverse
  | s :: r =>
    if isHere s then resolve done r
    else if isAbove s then resolve done.tail r
    else resolve (s :: done) r

/-- The path in its normal form; after a place it is a slash at least. -/
def pathOf (afterPlace : Bool) : List Char → List Char
  | '/' :: r => '/' :: Url.encodePart Url.pathSafe (joinSegments '/' (resolve [] (segments '/' r)))
  | [] => if afterPlace then ['/'] else []
  | r => Url.encodePart Url.pathSafe r

/-! ### Whole URLs -/

/-- The schemes of the web, whose URLs have a host. -/
def webSchemes : List String := ["http", "https", "ws", "wss", "ftp"]

/-- Checks the rest of a URL of the web after its scheme. -/
def checkWeb (cs : List Char) : Except UrlFault Unit := do
  let inside := fun c : Char => !(['/', '\\', '?', '#'].contains c)
  let authority := (cs.dropWhile fun c => c = '/' || c = '\\').takeWhile inside
  let (host, port) := splitPort false (cutAtLast '@' authority).2
  if host.isEmpty then throw .hostless
  let _ ← portOf (port.getD [])

/-- The text without blanks and controls around it and without tabs and line ends. -/
def stripped (cs : List Char) : List Char :=
  let isBlank := fun c : Char => c.toNat ≤ 0x20
  let r := ((cs.dropWhile isBlank).reverse.dropWhile isBlank).reverse
  r.filter fun c => c ≠ '\t' && c ≠ '\n' && c ≠ '\r'

/-- Reads a URL. -/
def parse (cs : List Char) : Except UrlFault Url := do
  if cs.isEmpty then throw .empty
  let (scheme, r) := Url.splitScheme (stripped cs)
  if scheme.isEmpty then throw .schemeless
  let scheme := scheme.map Char.toLower
  if webSchemes.contains (String.ofList scheme) then
    checkWeb r
    return ⟨scheme, [], [], none, [], none, none⟩
  let (authority, rest) := Url.splitAuthority r
  let (userInfo, host, port) ← placeOf authority !rest.isEmpty
  let (path, query, fragment) := Url.splitPath rest
  return ⟨scheme, userInfo, host, port, pathOf (r.head? = some '/') path,
    query.map (Url.encodePart Url.querySafe), fragment.map (Url.encodePart Url.fragmentSafe)⟩

/-- The schemes of key-value servers. -/
def schemes : List String := ["redis", "rediss"]

/-- The host if none is given. -/
def defaultHost : List Char := "localhost".toList

/-- The port if none is given. -/
def defaultPort : Int := 6379

/-- The path if none is given. -/
def defaultPath : List Char := "/0".toList

/-- Checks the scheme of a URL and fills in the host, port and path if they are absent. A path that
    does not begin with a slash leaves no place for a host. -/
def complete (u : Url) : Except Fault Url := do
  if !schemes.contains (String.ofList u.scheme) then throw .urlScheme
  if u.host.isEmpty && u.path.head? ≠ some '/' then throw (.urlText .pathOnly)
  return { u with
    host := if u.host.isEmpty then defaultHost else u.host
    port := some (u.port.getD defaultPort)
    path := if u.path = ['/'] then defaultPath else u.path }

/-- Reads a URL and completes it. -/
def read (cs : List Char) : Except Fault Url := do
  complete (← (parse cs).mapError .urlText)

end StoreUrl

end IndexSearch
