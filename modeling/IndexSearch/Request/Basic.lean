import IndexSearch.Digest.Sha256
import IndexSearch.Json.Writer
import IndexSearch.Text.Decoding
import IndexSearch.Validation.Scalar

namespace IndexSearch

open Text

/-!
# Search requests

A request says what to search for, how to filter, sort and page the results, and what else to
report.

* `SearchRequest.ofValue` — checks a value and makes a request of it;
* `SearchRequest.body` — the JSON that asks the service for the search;
* `SearchRequest.key` — the key under which the answer is kept, and `indexPattern` the pattern of
  all keys of an index;
* `SearchRequest.sentText?`, `hashedText?`, `key?` — the same of requests of which it is not known
  whether they can be written.
-/

/-- A search request. Options that are absent are left to the service. -/
structure SearchRequest where
  /-- The text to search for. -/
  fullText : Option String
  /-- The filter in the language of the service. -/
  filter : Option String
  /-- The sort clauses, the first one first. -/
  orderBy : List String
  /-- The number of results to pass over. -/
  skip : Option Nat
  /-- The number of results to return. -/
  top : Option Nat
  /-- The facets to compute. -/
  facets : List String
  /-- Whether to count all results. -/
  includeTotalCount : Bool
deriving DecidableEq

namespace SearchRequest

open Checked in
/-- Checks the parts of a request. -/
def ofEntries (entries : List (Value × Value)) : Checked SearchRequest :=
  ap (.ok SearchRequest.mk) (optional ["full_text"] none (nullable text) entries)
    |> (ap · (optional ["filter"] none (nullable text) entries))
    |> (ap · (optional ["order_by"] [] (tuple text) entries))
    |> (ap · (optional ["skip"] none (nullable (intFrom 0)) entries))
    |> (ap · (optional ["top"] none (nullable (intFrom 0)) entries))
    |> (ap · (optional ["facets"] [] (tuple text) entries))
    |> (ap · (optional ["include_total_count"] false bool entries))

/-- Checks a value and makes a request of it. -/
def ofValue (v : Value) : Checked SearchRequest := do
  ofEntries (← Checked.model "QueryRequest" v)

/-- A field that is present only if there is something to say. -/
def fieldOf {α : Type} (name : String) (toJson : α → Json) : Option α → List (String × Json)
  | none => []
  | some a => [(name, toJson a)]

/-- The fields of the body, in the order in which they are sent. -/
def bodyFields (r : SearchRequest) : List (String × Json) :=
  fieldOf "search" .text r.fullText
    ++ fieldOf "filter" .text r.filter
    ++ (if r.orderBy.isEmpty then [] else [("orderby", .text (",".intercalate r.orderBy))])
    ++ fieldOf "skip" (fun n : Nat => .int n) r.skip
    ++ fieldOf "top" (fun n : Nat => .int n) r.top
    ++ (if r.facets.isEmpty then [] else [("facets", .array (r.facets.map .text))])
    ++ [("count", .bool r.includeTotalCount)]

/-- The JSON that asks the service for the search. -/
def body (r : SearchRequest) : Json := .object r.bodyFields

/-- The body as it is sent. -/
def sentText (r : SearchRequest) : String := r.body.write Json.compact

/-- The body as it is hashed: with its fields by name. -/
def hashedText (r : SearchRequest) : String := r.body.sorted.write Json.spaced

/-- The first sixteen hexadecimal digits of the digest of a text. -/
def fingerprint (s : String) : String :=
  String.ofList (((Digest.sha256 (Utf8.encode s.toList)).take 8).flatMap fun b =>
    hexDigits 2 b.toNat)

/-- What all keys of the answers of an index begin with. -/
def keyStem (index : String) : String := "azquery:search:" ++ index ++ ":"

/-- The key under which the answer to a request on an index is kept. -/
def key (index : String) (r : SearchRequest) : String := keyStem index ++ fingerprint r.hashedText

/-- Why the body of a request cannot be written: a count may have too many digits. -/
def faults (r : SearchRequest) : List TextFault :=
  (r.skip.toList ++ r.top.toList).flatMap fun n : Nat => TextFault.ofInt n

/-- The body as it is sent, if it can be written. -/
def sentText? (r : SearchRequest) : Except TextFault String := do
  TextFault.check r.faults
  return r.sentText

/-- The body as it is hashed, if it can be written. -/
def hashedText? (r : SearchRequest) : Except TextFault String := do
  TextFault.check r.faults
  return r.hashedText

/-- The key under which the answer to a request on an index is kept, if the request can be
    written. -/
def key? (index : String) (r : SearchRequest) : Except TextFault String := do
  return keyStem index ++ fingerprint (← r.hashedText?)

/-- The pattern of the keys of all answers of an index. -/
def indexPattern (index : String) : String := keyStem index ++ "*"

end SearchRequest

end IndexSearch
