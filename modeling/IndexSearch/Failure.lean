import IndexSearch.QueryError
import IndexSearch.Searcher

namespace IndexSearch

open Text

/-!
# Failures

All that can go wrong in this library, as one type, with the wording and the values that go with it.
-/

/-- What can go wrong. -/
inductive Failure where
  /-- A query is not in order. -/
  | query (e : QueryError)
  /-- Data does not have the form it should have. -/
  | invalid (issues : List Issue)
  /-- An entry of an answer cannot be split. -/
  | split (e : SplitError)
  /-- No service can be made of what is given. -/
  | config (e : ServiceConfigError)
  /-- The service gave no answer. -/
  | exchange (e : SearchError)
  /-- The key-value server failed. -/
  | memory (e : LinkError)
  /-- No log level has the given name. -/
  | level (name : String)
  /-- A session is used that has not been entered. -/
  | notEntered

namespace Failure

/-- The failure to read an answer. -/
def ofEnvelope : EnvelopeError → Failure
  | .split e => split e
  | .invalid issues => invalid issues

/-- The failure of a search. -/
def ofSearch : SearchFailure → Failure
  | .exchange e => exchange e
  | .memory e => memory e
  | .answer e => ofEnvelope e

/-- The wording of a failure. -/
def message : Failure → String
  | query e => e.message
  | invalid issues => issuesText issues
  | split e => e.message
  | config e => e.message
  | exchange e => e.message
  | memory e => e.message
  | level name => "Unknown level: " ++ quoted name
  | notEntered => "Client not initialized. Use 'async with AzqueryClient() as client:'"

/-- The values that go with a failure, if it is one of searching itself. -/
def details? : Failure → Option (List (String × Value))
  | query e => e.details?
  | config .unnamed => some []
  | exchange e => e.details?
  | _ => none

/-- The status of the answer with which the service refused a search. -/
def status? : Failure → Option Nat
  | exchange (.refused _ status _) => some status
  | _ => none

end Failure

end IndexSearch
