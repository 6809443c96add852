import IndexSearch.Answer.Entry

namespace IndexSearch

/-!
# Answers of the service

The body of an answer is a mapping with a list of results and sections about them. Sections can be
given by the names that the service uses or by plain ones; where both occur, the former count.

* `FacetBucket.ofValue` — checks one bucket of a facet;
* `Envelope.ofValue` — splits the results and checks the whole answer.
-/

/-- One bucket of a facet: a value, or a range with one or two bounds. -/
structure FacetBucket where
  /-- The value. -/
  value : Value
  /-- The number of documents in the bucket. -/
  count : Option Int
  /-- The lower bound. -/
  lower : Value
  /-- The upper bound. -/
  upper : Value

namespace FacetBucket

/-- The value as a text, empty if there is none. -/
def label (b : FacetBucket) : String := if b.value.isNull then "" else b.value.plain

open Checked in
/-- Checks the parts of a bucket. -/
def ofEntries (entries : List (Value × Value)) : Checked FacetBucket :=
  ap (.ok FacetBucket.mk) (optional ["value"] .null .ok entries)
    |> (ap · (optional ["count"] none (nullable int) entries))
    |> (ap · (optional ["from", "from_"] .null .ok entries))
    |> (ap · (optional ["to"] .null .ok entries))

/-- Checks a value and makes a bucket of it. -/
def ofValue (v : Value) : Checked FacetBucket := do
  ofEntries (← Checked.model "FacetBucket" v)

end FacetBucket

/-- An answer of the service. -/
structure Envelope where
  /-- The results. -/
  results : List ResultEntry
  /-- The number of all results. -/
  count : Option Int
  /-- The buckets of each facet. -/
  facets : Option (List (String × List FacetBucket))
  /-- How much of the index was searched. -/
  coverage : Option Number.Binary64
  /-- Where the next results are. -/
  nextLink : Option String
  /-- The request for the next results. -/
  nextPageParameters : Option (List (String × Value))

/-- Why a value is no answer. -/
inductive EnvelopeError where
  /-- A result cannot be split. -/
  | split (e : SplitError)
  /-- Parts do not have the form they should have. -/
  | invalid (issues : List Issue)
deriving DecidableEq

/-- The wording of the error. -/
def EnvelopeError.message : EnvelopeError → String
  | split e => e.message
  | invalid issues => issuesText issues

namespace Envelope

/-- The names of the results, the service's own first. -/
def resultNames : List String := ["value", "results"]

/-- Splits the results if they are a list. -/
def splitResults : Value → Except SplitError Value
  | .list xs => (splitItems xs).map .list
  | v => .ok v

/-- Checks the results. The outer error is that of splitting them. -/
def resultsOf (entries : List (Value × Value)) :
    Except SplitError (Checked (List ResultEntry)) :=
  match Checked.part? resultNames entries with
  | none => .ok (.ok [])
  | some (name, v) => do
    let split ← splitResults v
    return (Checked.list ResultEntry.ofValue split).within name

open Checked in
/-- Checks the parts of an answer. -/
def ofEntries (results : Checked (List ResultEntry)) (entries : List (Value × Value)) :
    Checked Envelope :=
  ap (.ok Envelope.mk) results
    |> (ap · (optional ["@odata.count", "count"] none (nullable int) entries))
    |> (ap · (optional ["@search.facets", "facets"] none
      (nullable fun v => (mapping (list FacetBucket.ofValue) v).map Json.distinctFields) entries))
    |> (ap · (optional ["@search.coverage", "coverage"] none (nullable number) entries))
    |> (ap · (optional ["@odata.nextLink", "next_link"] none (nullable text) entries))
    |> (ap · (optional ["@search.nextPageParameters", "next_page_parameters"] none
      (nullable fun v => (mapping .ok v).map Json.distinctFields) entries))

/-- Splits and checks a value and makes an answer of it. -/
def ofValue : Value → Except EnvelopeError Envelope
  | .mapping entries =>
    match resultsOf entries with
    | .error e => .error (.split e)
    | .ok results => (ofEntries results entries).mapError .invalid
  | _ => .error (.invalid [⟨[], .notModel "ResponseEnvelope"⟩])

/-- The labels of the buckets of each facet, in the order of the service. -/
def facetLabels (e : Envelope) : List (String × List String) :=
  (e.facets.getD []).map fun (name, buckets) => (name, buckets.map FacetBucket.label)

end Envelope

end IndexSearch
