import IndexSearch.Filter.Basic
import IndexSearch.Request.Basic

namespace IndexSearch

/-!
# Requests in the making

A `Draft` collects search options one at a time. Setting an option again replaces it; an option that
is refused leaves the draft as it was. Options are written out when they are set, and what is left
to check is checked by `Draft.build`.

* `SearchOption` — an option to set;
* `Draft.set`, `Draft.after` — set one;
* `Draft.build` — the request with the options set so far.
-/

/-- What is given as a sort key: a key, or something else in its place. -/
inductive SortOperand where
  /-- A sort key. -/
  | key (k : SortKey)
  /-- A filter or another value. -/
  | other (f : Filter)

/-- The clause for a sort key. -/
def SortOperand.clause : SortOperand → Except QueryError String
  | key k => do
    QueryError.check k.fieldFaults
    k.clause
  | other f => do
    QueryError.check f.shownFaults
    throw (.notSortKey f.shown)

/-- The clauses for sort keys, in order. -/
def sortClauses (keys : List SortOperand) : Except QueryError (List String) :=
  keys.mapM SortOperand.clause

/-- An option to set. -/
inductive SearchOption where
  /-- The filter. -/
  | filter (f : Filter)
  /-- The sort keys, the most important first. -/
  | sort (keys : List SortOperand)
  /-- The elements of a value as sort keys. -/
  | sortValue (v : Value)
  /-- The facets to compute. -/
  | facets (v : Value)
  /-- The number of results to pass over. -/
  | skip (v : Value)
  /-- The number of results to return. -/
  | top (v : Value)
  /-- The text to search for. -/
  | fullText (v : Value)
  /-- That all results are to be counted. -/
  | totalCount

/-- The options set so far. -/
structure Draft where
  /-- The text to search for. -/
  fullText : Value := .null
  /-- The filter in the language of the service. -/
  filter : Option String := none
  /-- The sort clauses. -/
  orderBy : List String := []
  /-- The number of results to pass over. -/
  skip : Option Nat := none
  /-- The number of results to return. -/
  top : Option Nat := none
  /-- The facets to compute. -/
  facets : List Value := []
  /-- Whether to count all results. -/
  includeTotalCount : Bool := false

namespace Draft

/-- A count has to be a whole number that is not negative. -/
def countOf (option : Paging) : Value → Except QueryError Nat
  | .int n => if n < 0 then .error (.countNegative option n) else .ok n.toNat
  | v => .error (.countNotInteger option v)

/-- The values that a collection offers. -/
def elementsOf (v : Value) : Except QueryError (List Value) :=
  match v.elements? with
  | some xs => .ok xs
  | none => .error (.notIterable v.typeName)

/-- The facets in a value: the elements of a collection, which must not be a single text. -/
def facetsOf : Value → Except QueryError (List Value)
  | .text s => .error (.facetsAreText s)
  | v => elementsOf v

/-- Sets the filter. -/
def setFilter (d : Draft) (f : Filter) : Except QueryError Draft := do
  return { d with filter := some (← f.compile) }

/-- Sets the sort keys, the most important first. -/
def setSort (d : Draft) (keys : List SortOperand) : Except QueryError Draft := do
  return { d with orderBy := ← sortClauses keys }

/-- Sets the sort keys to the elements of a value, none of which is a sort key. -/
def setSortValue (d : Draft) (v : Value) : Except QueryError Draft := do
  d.setSort ((← elementsOf v).map fun x => .other (.value x))

/-- Sets the facets to compute. -/
def setFacets (d : Draft) (v : Value) : Except QueryError Draft := do
  return { d with facets := ← facetsOf v }

/-- Sets the number of results to pass over. -/
def setSkip (d : Draft) (v : Value) : Except QueryError Draft := do
  return { d with skip := some (← countOf .skip v) }

/-- Sets the number of results to return. -/
def setTop (d : Draft) (v : Value) : Except QueryError Draft := do
  return { d with top := some (← countOf .top v) }

/-- Sets the text to search for. -/
def setFullText (d : Draft) (v : Value) : Draft := { d with fullText := v }

/-- Asks for the number of all results. -/
def countAll (d : Draft) : Draft := { d with includeTotalCount := true }

/-- Sets an option. -/
def set (d : Draft) : SearchOption → Except QueryError Draft
  | .filter f => d.setFilter f
  | .sort keys => d.setSort keys
  | .sortValue v => d.setSortValue v
  | .facets v => d.setFacets v
  | .skip v => d.setSkip v
  | .top v => d.setTop v
  | .fullText v => .ok (d.setFullText v)
  | .totalCount => .ok d.countAll

/-- The draft after an option has been set, or the draft as it was if the option is refused. -/
def after (d : Draft) (o : SearchOption) : Draft :=
  match d.set o with
  | .ok d => d
  | .error _ => d

/-- An option that is refused leaves the draft as it was. -/
theorem after_of_error {d : Draft} {o : SearchOption} {e : QueryError} (h : d.set o = .error e) :
    d.after o = d := by
  simp [after, h]

/-- An option that is not refused is set. -/
theorem after_of_ok {d d' : Draft} {o : SearchOption} (h : d.set o = .ok d') : d.after o = d' := by
  simp [after, h]

open Checked in
/-- The request with the options set so far, if the text and the facets are texts. -/
def build (d : Draft) : Checked SearchRequest :=
  both
    (fun fullText facets =>
      ⟨fullText, d.filter, d.orderBy, d.skip, d.top, facets, d.includeTotalCount⟩)
    ((nullable text d.fullText).within "full_text")
    ((each text d.facets).within "facets")

end Draft

end IndexSearch
