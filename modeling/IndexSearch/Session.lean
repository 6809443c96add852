import IndexSearch.Failure
import IndexSearch.LogLevel
import IndexSearch.Settings
import IndexSearch.Text.Letters

namespace IndexSearch

/-!
# Search sessions

A session searches a service with the help of a key-value server, both named by its settings. It has
to be entered before it is used, and is closed at the end. Entering it also sets the log level.

* `Session.enter`, `Session.close` — begin and end the work;
* `Session.search`, `Session.invalidate` — what can be done in between;
* `Settings.searchOnce` — one search in a session of its own.
-/

/-- A search session. A session that is closed closes its searcher. One that is entered again takes
    a new searcher, and the one before is left as it is: nothing closes it any more. -/
structure Session where
  /-- The settings. -/
  settings : Settings
  /-- Whether answers are kept if the settings name a server for them. -/
  keepsAnswers : Bool
  /-- What searches, while the session is entered. -/
  searcher : Option Searcher
  /-- What searched before the session was closed or entered again, the latest first. -/
  former : List Searcher

/-- What comes of a search in a session. -/
structure SessionOutcome where
  /-- The results, or why there are none. -/
  result : Except Failure SearchResults
  /-- The session afterwards. -/
  session : Session
  /-- The key-value server afterwards. -/
  server : Server
  /-- The requests sent. -/
  sent : List SentRequest

/-- The log level that the settings ask for. -/
def Settings.level (s : Settings) : Except Failure LogLevel :=
  let name := if s.debug then "DEBUG" else Text.upper s.logLevel
  match LogLevel.ofName? name with
  | some l => .ok l
  | none => .error (.level name)

namespace Session

/-- A session that has not been entered. -/
def ofSettings (settings : Settings) (keepsAnswers : Bool) : Session :=
  ⟨settings, keepsAnswers, none, []⟩

/-- A connected link to the server for answers, if there is to be one and it can be connected. -/
def openLink (s : Session) (server : Server) : Option Link :=
  match s.keepsAnswers, s.settings.storeUrl with
  | true, some url =>
    match (Link.ofUrl (.text url)).connect server with
    | (.ok (), l) => some l
    | (.error _, _) => none
  | _, _ => none

/-- Enters the session. The log level is set first and stays set if there is no service; then the
    session stays as it was. -/
def enter (s : Session) (server : Server) (level : LogLevel) :
    Except Failure Unit × Session × LogLevel :=
  match s.settings.level with
  | .error e => (.error e, s, level)
  | .ok level =>
    match s.settings.service with
    | .error e => (.error (.config e), s, level)
    | .ok service =>
      let searcher : Searcher :=
        ⟨.ofService service, s.openLink server, .int s.settings.cacheTtl⟩
      let former := s.searcher.toList ++ s.former
      (.ok (), { s with searcher := some searcher, former }, level)

/-- Closes the session with the connection and the link that it uses. -/
def close (s : Session) : Session :=
  let former := s.searcher.toList.map Searcher.close ++ s.former
  { s with searcher := none, former }

/-- The connections to the service that the session has opened and that still are. -/
def openConnections (s : Session) : List Connection :=
  ((s.searcher.toList ++ s.former).map Searcher.connection).filter Connection.isOpen

/-- The links to the key-value server that the session has connected and that still are. -/
def openLinks (s : Session) : List Link :=
  ((s.searcher.toList ++ s.former).filterMap Searcher.link).filter Link.connected

/-- Whether the session has been entered. -/
def isEntered (s : Session) : Bool := s.searcher.isSome

/-- The base URL of the service, while the session is entered. -/
def baseUrl? (s : Session) : Option String := s.searcher.map fun x => x.connection.service.baseUrl

/-- Whether answers are kept. -/
def isKeeping (s : Session) : Bool := (s.searcher.bind Searcher.link).isSome

/-- Searches an index. -/
def search (s : Session) (index : Value) (r : SearchRequest) (form : DocumentForm) (reply : Reply)
    (server : Server) : SessionOutcome :=
  match s.searcher with
  | none => ⟨.error .notEntered, s, server, []⟩
  | some x =>
    let o := x.search index r form reply server
    ⟨o.result.mapError .ofSearch, { s with searcher := some { x with connection := o.connection } },
      o.server, o.sent⟩

/-- Removes all kept answers of an index and counts them. -/
def invalidate (s : Session) (index : Value) (server : Server) : Except Failure Nat × Server :=
  match s.searcher with
  | none => (.error .notEntered, server)
  | some x =>
    let (n, server) := x.invalidate index server
    (n.mapError .memory, server)

end Session

/-- Searches an index in a session that is made for it, keeps no answers and is closed afterwards.
    The log level stays set. -/
def Settings.searchOnce (settings : Settings) (index : Value) (r : SearchRequest)
    (form : DocumentForm) (reply : Reply) (server : Server) (level : LogLevel) :
    SessionOutcome × LogLevel :=
  let (entered, session, level) := (Session.ofSettings settings false).enter server level
  match entered with
  | .error e => (⟨.error e, session.close, server, []⟩, level)
  | .ok () =>
    let o := session.search index r form reply server
    ({ o with session := o.session.close }, level)

end IndexSearch
