import IndexSearch.Service.Exchange
import IndexSearch.Store.Link
import IndexSearch.Store.Memo

namespace IndexSearch

/-!
# Searching with a memory

A `Searcher` searches over a connection to a service. With a link to a key-value server it keeps the
bodies of answers there, each under the key of its index and request, so that a search that was made
before needs no second exchange.

* `Searcher.search` — searches an index and takes the results from the answer;
* `Searcher.invalidate` — removes all answers of an index from the server;
* `Connection.searchOnce` — a search without a memory.
-/

/-- Why a search has no results. -/
inductive SearchFailure where
  /-- There is no answer of the service. -/
  | exchange (e : SearchError)
  /-- The key-value server failed. -/
  | memory (e : LinkError)
  /-- The answer is not in order. -/
  | answer (e : EnvelopeError)

/-- The wording of the failure. -/
def SearchFailure.message : SearchFailure → String
  | exchange e => e.message
  | memory e => e.message
  | answer e => e.message

/-- What a search works with and changes. -/
structure SearchState where
  /-- The connection to the service. -/
  connection : Connection
  /-- The key-value server. -/
  server : Server
  /-- The requests sent, the first one first. -/
  sent : List SentRequest

/-- The steps of a search. What a step has changed stays changed if a later one fails. -/
abbrev SearchM := ExceptT SearchFailure (StateM SearchState)

namespace SearchM

/-- Asks the service, whose reply is given. -/
def ask (index : Value) (r : SearchRequest) (reply : Reply) : SearchM Value := fun s =>
  let (x, c) := s.connection.search index r reply
  ((x.outcome.map Json.toValue).mapError .exchange,
    { s with connection := c, sent := s.sent ++ x.sent })

/-- Looks a key up over a link. -/
def lookUp (l : Link) (key : String) : SearchM Value := fun s =>
  ((l.get s.server key).mapError .memory, s)

/-- Keeps a value under a key for a time. -/
def keep (l : Link) (key : String) (ttl v : Value) : SearchM Unit := fun s =>
  match l.set s.server key v ttl with
  | .ok server => (.ok (), { s with server })
  | .error e => (.error (.memory e), s)

/-- Takes the results from the body of an answer. -/
def results (form : DocumentForm) (body : Value) : SearchM SearchResults := fun s =>
  ((SearchResults.ofValue form body).mapError .answer, s)

end SearchM

/-- A connection to a service, with a link to a key-value server if answers are kept. -/
structure Searcher where
  /-- The connection. -/
  connection : Connection
  /-- The link. -/
  link : Option Link
  /-- How long answers are kept, in seconds. -/
  ttl : Value

/-- What comes of a search. -/
structure SearchOutcome (α : Type) where
  /-- The results, or why there are none. -/
  result : Except SearchFailure α
  /-- The connection afterwards. -/
  connection : Connection
  /-- The key-value server afterwards. -/
  server : Server
  /-- The requests sent. -/
  sent : List SentRequest

/-- Goes through the steps of a search on a connection and a server. -/
def SearchM.outcome {α : Type} (steps : SearchM α) (c : Connection) (s : Server) :
    SearchOutcome α :=
  let (result, state) := StateT.run (ExceptT.run steps) ⟨c, s, []⟩
  ⟨result, state.connection, state.server, state.sent⟩

namespace Searcher

/-- The body of the answer to a request on an index, kept or new. The request is one that can be
    written, so that there is a key for it. -/
def body (s : Searcher) (index : Value) (r : SearchRequest) (reply : Reply) : SearchM Value :=
  match s.link with
  | none => SearchM.ask index r reply
  | some l =>
    let key := r.key index.plain
    remembered (SearchM.lookUp l key) (SearchM.ask index r reply) (SearchM.keep l key s.ttl)

/-- Searches an index. The reply is that of the service if it is asked. -/
def search (s : Searcher) (index : Value) (r : SearchRequest) (form : DocumentForm)
    (reply : Reply) (server : Server) : SearchOutcome SearchResults :=
  SearchM.outcome (s.body index r reply >>= SearchM.results form) s.connection server

/-- Removes all answers of an index from the server, as this reads patterns, and counts them. -/
def invalidateBy (s : Searcher) (index : Value) (server : Server) (m : Text.Matcher) :
    Except LinkError Nat × Server :=
  match s.link with
  | none => (.ok 0, server)
  | some l => l.deleteMatchingBy server (SearchRequest.indexPattern index.plain) m

/-- Removes all answers of an index from the server and counts them. -/
def invalidate (s : Searcher) (index : Value) (server : Server) : Except LinkError Nat × Server :=
  s.invalidateBy index server Text.matchesPattern

/-- Closes the link to the server, if there is one. -/
def closeLink (s : Searcher) : Searcher := { s with link := s.link.map Link.close }

/-- Closes the connection to the service, and the link to the server if there is one. -/
def close (s : Searcher) : Searcher := { s.closeLink with connection := s.connection.close }

end Searcher

namespace Connection

/-- The answer to a request on an index. -/
def envelope (c : Connection) (index : Value) (r : SearchRequest) (reply : Reply) :
    Except SearchFailure Envelope × Service.Exchange × Connection :=
  let (x, c) := c.search index r reply
  (do (Envelope.ofValue (← x.outcome.mapError .exchange).toValue).mapError .answer, x, c)

/-- The results of a search without a memory. -/
def searchOnce (c : Connection) (index : Value) (r : SearchRequest) (form : DocumentForm)
    (reply : Reply) : Except SearchFailure SearchResults × Service.Exchange × Connection :=
  let (e, x, c) := c.envelope index r reply
  (do (SearchResults.ofEnvelope form (← e)).mapError .answer, x, c)

end Connection

end IndexSearch
