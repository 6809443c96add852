import IndexSearch.Answer.Envelope

namespace IndexSearch

/-!
# Search results

What a caller of a search gets: the documents, without what the service says about them, the labels
of the facets, and the number of all results if it was reported. Documents are given as they are or
brought into a form that the caller asks for.
-/

/-- The kinds of the fields of a record. -/
inductive FieldKind where
  /-- A text. -/
  | text
  /-- A whole number. -/
  | int
deriving DecidableEq

/-- The form that documents are brought into. -/
inductive DocumentForm where
  /-- As they are. -/
  | plain
  /-- A record, whose fields a document must have; others are dropped. -/
  | record (fields : List (String × FieldKind))
  /-- A whole number, which no document is. -/
  | int
  /-- A form of the caller's own, given by how a document is brought into it. -/
  | custom (read : List (String × Value) → Checked Value)

/-- Reads a value of the given kind. -/
def FieldKind.check : FieldKind → Value → Checked Value
  | text, v => (Checked.text v).map .text
  | int, v => (Checked.int v).map .int

/-- Reads the fields of a record from a document. -/
def recordOf (fields : List (String × FieldKind)) (document : List (Value × Value)) :
    Checked (List (String × Value)) :=
  Checked.all (fields.map fun (name, kind) =>
    (Checked.required name kind.check document).map fun v => (name, v))

/-- Brings a document into a form. -/
def DocumentForm.check : DocumentForm → List (String × Value) → Checked Value
  | plain, document => .ok (Value.ofFields document)
  | record fields, document =>
    (recordOf fields (document.map fun (k, v) => (.text k, v))).map Value.ofFields
  | int, document => (Checked.int (Value.ofFields document)).map .int
  | custom read, document => read document

/-- The results of a search. -/
structure SearchResults where
  /-- The documents. -/
  documents : List Value
  /-- The labels of each facet. -/
  facets : List (String × List String)
  /-- The number of all results, if it was reported. -/
  totalCount : Option Int

namespace SearchResults

/-- The results in an answer. The first document that does not fit the form is an error. -/
def ofEnvelope (form : DocumentForm) (e : Envelope) : Except EnvelopeError SearchResults := do
  let documents ← (e.results.mapM fun r => form.check r.document).mapError .invalid
  return ⟨documents, e.facetLabels, e.count⟩

/-- Checks a value as an answer and takes the results from it. -/
def ofValue (form : DocumentForm) (v : Value) : Except EnvelopeError SearchResults := do
  ofEnvelope form (← Envelope.ofValue v)

end SearchResults

end IndexSearch
