import IndexSearch.Json.Basic
import IndexSearch.Validation.Scalar

namespace IndexSearch

/-!
# Entries of an answer

The service mixes what it says about a result into the document itself, under names that begin with
`@search.`. `splitEntry` separates the two; `ResultEntry.ofValue` checks the outcome.
-/

/-- Why an entry cannot be split. -/
inductive SplitError where
  /-- It is no mapping. -/
  | notMapping (typeName : String)
  /-- A key is of a kind that has no beginning. -/
  | keyKind (typeName : String)
  /-- A key is a string of bytes. -/
  | keyBytes
deriving DecidableEq

/-- The wording of the error. -/
def SplitError.message : SplitError → String
  | notMapping typeName => "'" ++ typeName ++ "' object has no attribute 'items'"
  | keyKind typeName => "'" ++ typeName ++ "' object has no attribute 'startswith'"
  | keyBytes => "startswith first arg must be bytes or a tuple of bytes, not str"

/-- What the names of the service's own fields begin with. -/
def metadataMark : String := "@search."

/-- Whether the name is one of the service's own. -/
def isMetadata (name : String) : Bool := metadataMark.toList.isPrefixOf name.toList

/-- The names of a mapping with their values, if all keys are texts. -/
def namedEntries : List (Value × Value) → Except SplitError (List (String × Value))
  | [] => .ok []
  | (.text name, v) :: r => (namedEntries r).map ((name, v) :: ·)
  | (.bytes _, _) :: _ => .error .keyBytes
  | (k, _) :: _ => .error (.keyKind k.typeName)

/-- Separates the service's own fields from those of the document, which follow them under the name
    `document`. -/
def splitEntry (entries : List (Value × Value)) : Except SplitError (List (String × Value)) := do
  let named ← namedEntries entries
  let metadata := named.filter fun f => isMetadata f.1
  let document := named.filter fun f => !isMetadata f.1
  return metadata ++ [("document", Value.ofFields document)]

/-- Splits a value, which has to be a mapping. -/
def splitValue : Value → Except SplitError (List (String × Value))
  | .mapping entries => splitEntry entries
  | v => .error (.notMapping v.typeName)

/-- Splits each mapping of a list and leaves other values as they are. -/
def splitItems : List Value → Except SplitError (List Value)
  | [] => .ok []
  | .mapping entries :: r => do
    let fields ← splitEntry entries
    return Value.ofFields fields :: (← splitItems r)
  | v :: r => (splitItems r).map (v :: ·)

/-- A result: the document with what the service says about it. -/
structure ResultEntry where
  /-- How well the document fits. -/
  score : Option Number.Binary64
  /-- The passages that fit, by field. -/
  highlights : Option (List (String × List String))
  /-- The fields of the document. -/
  document : List (String × Value)

namespace ResultEntry

open Checked in
/-- Checks the parts of an entry; of equal names in the document the last value counts. -/
def ofEntries (entries : List (Value × Value)) : Checked ResultEntry :=
  ap (.ok ResultEntry.mk)
      (optional ["@search.score", "score"] none (nullable number) entries)
    |> (ap · (optional ["@search.highlights", "highlights"] none
      (nullable fun v => (mapping (list text) v).map Json.distinctFields) entries))
    |> (ap · (optional ["document"] []
      (fun v => (mapping .ok v).map Json.distinctFields) entries))

/-- Checks a value and makes an entry of it. -/
def ofValue (v : Value) : Checked ResultEntry := do
  ofEntries (← Checked.model "SearchResultEntry" v)

end ResultEntry

end IndexSearch
