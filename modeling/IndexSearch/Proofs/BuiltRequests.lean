import IndexSearch.Proofs.DraftHistory
import IndexSearch.Proofs.FilterFaults
import IndexSearch.Proofs.PassedChecks
import IndexSearch.Proofs.Utf8Texts

namespace IndexSearch

open Text

/-!
# What a draft can build

A request is checked as a whole when it is built, but most of it has been written out before: the
filter and the sort clauses are texts by then, and the numbers are not negative. So the checks of
these parts pass, whatever a draft has been through, and a request can only fail for its full text
or its facets, which are kept as they were given.

* `Value.Spells` — which values pass for a text, and for which one;
* `Draft.build_eq_ofValue` — the checks of all seven parts come to those of two;
* `SearchRequest.IsBuiltFrom` — what each part of a request has to do with the history of a draft;
* `Draft.build_ofCalls` — when requests fail, where, and what is in those that do not.
-/

/-! ### Values that pass for texts -/

/-- Whether a value passes for a text: it is the text or its bytes. -/
def Value.Spells (v : Value) (s : String) : Prop :=
  v = .text s ∨ v = .bytes (Utf8.encode s.toList)

/-- Whether a value passes for any text. -/
def Value.IsText (v : Value) : Prop := ∃ s, v.Spells s

namespace Checked

variable {α : Type}

/-- The texts that are read from a value are those it passes for. -/
theorem text_eq_ok_iff {v : Value} {s : String} : text v = .ok s ↔ v.Spells s := by
  cases v with
  | text t => simp [text, Value.Spells]
  | bytes bs =>
    have hread : text (.bytes bs) = .ok s ↔ decodeUtf8? bs = some s := by
      simp only [text]
      cases decodeUtf8? bs with
      | none => exact iff_of_false (fun h => by cases h) (fun h => by cases h)
      | some t => simp
    rw [hread, decodeUtf8?_eq_some_iff]
    simp [Value.Spells, eq_comm]
  | _ => simp [text, Value.Spells, fault]

/-- What passes as it is, one value after the other. -/
theorem each_map_eq_ok {check : Value → Checked α} (toValue : α → Value) (xs : List α)
    (hpass : ∀ a, check (toValue a) = .ok a) :
    each check (xs.map toValue) = .ok xs := by
  rw [each_eq_ok_iff, List.forall₂_map_left_iff, List.forall₂_same]
  exact fun a _ => hpass a

/-- What passes as it is, or null in its place. -/
theorem nullable_elim_eq_ok {check : Value → Checked α} (toValue : α → Value) (o : Option α)
    (hnull : ∀ a, (toValue a).isNull = false) (hpass : ∀ a, check (toValue a) = .ok a) :
    nullable check (o.elim .null toValue) = .ok o := by
  cases o with
  | none => rfl
  | some a => exact nullable_eq_ok_iff.mpr (.inr ⟨hnull a, a, hpass a, rfl⟩)

/-- A count passes the check for counts. -/
theorem intFrom_zero (n : Nat) : intFrom 0 (.int n) = .ok n := rfl

/-- What is wrong with one of two parts is wrong with the first or the second. -/
theorem mem_of_both {β γ : Type} {f : α → β → γ} {a : Checked α} {b : Checked β}
    {issues : List Issue} {i : Issue} (h : both f a b = .error issues) (hi : i ∈ issues) :
    (∃ is, a = .error is ∧ i ∈ is) ∨ ∃ js, b = .error js ∧ i ∈ js := by
  -- one case for each pair of outcomes: what both leave is the list of the one that fails, or the
  -- two lists in a row
  cases a with
  | ok x =>
    cases b with
    | ok y => cases h
    | error js =>
      obtain rfl := Except.error.inj h
      exact .inr ⟨js, rfl, hi⟩
  | error is =>
    cases b with
    | ok y =>
      obtain rfl := Except.error.inj h
      exact .inl ⟨is, rfl, hi⟩
    | error js =>
      obtain rfl := Except.error.inj h
      exact (List.mem_append.mp hi).imp (fun h => ⟨is, rfl, h⟩) fun h => ⟨js, rfl, h⟩

/-- All issues of a check are at the part that it is placed below. -/
theorem place_of_within {part : String} {a : Checked α} {issues : List Issue}
    (h : a.within part = .error issues) : ∀ i ∈ issues, ∃ rest, i.place = part :: rest := by
  cases a with
  | ok x => cases h
  | error is =>
    obtain rfl := Except.error.inj h
    intro i hi
    obtain ⟨j, -, rfl⟩ := List.mem_map.mp hi
    exact ⟨j.place, rfl⟩

end Checked

namespace Draft

open Checked

/-! ### The checks that are left -/

/-- What a draft has for the parts of a request, by their names. -/
def arguments (d : Draft) : List (String × Value) :=
  [("full_text", d.fullText), ("filter", d.filter.elim .null .text),
    ("order_by", .tuple (d.orderBy.map .text)),
    ("skip", d.skip.elim .null fun n : Nat => .int n),
    ("top", d.top.elim .null fun n : Nat => .int n), ("facets", .tuple d.facets),
    ("include_total_count", .bool d.includeTotalCount)]

/-- **The request that is built is what the check of all parts makes of them.** -/
theorem build_eq_ofValue (d : Draft) :
    d.build = SearchRequest.ofValue (.ofFields d.arguments) := by
  -- what is written out passes its check, so that only two checks are left
  have hfilter : nullable text (d.filter.elim .null .text) = .ok d.filter :=
    nullable_elim_eq_ok .text d.filter (fun _ => rfl) (fun _ => rfl)
  have hsort : tuple text (.tuple (d.orderBy.map .text)) = .ok d.orderBy :=
    each_map_eq_ok .text d.orderBy (fun _ => rfl)
  have hcount (o : Option Nat) :
      nullable (intFrom 0) (o.elim .null fun n : Nat => .int n) = .ok o :=
    nullable_elim_eq_ok (fun n : Nat => .int n) o (fun _ => rfl) intFrom_zero
  have hpart {α : Type} {absent : α} {check : Value → Checked α} (name : String) (v : Value)
      (hfield : Json.field? name d.arguments = some v) :=
    @optional_of_field? α name absent check d.arguments v hfield
  symm
  show SearchRequest.ofEntries _ = d.build
  rw [SearchRequest.ofEntries, hpart "full_text" d.fullText rfl, hpart "filter" _ rfl, hfilter,
    hpart "order_by" _ rfl, hsort, hpart "skip" _ rfl, hcount, hpart "top" _ rfl, hcount,
    hpart "facets" (.tuple d.facets) rfl, hpart "include_total_count" _ rfl]
  show _ = both _ ((nullable text d.fullText).within "full_text")
    ((tuple text (.tuple d.facets)).within "facets")
  cases (nullable text d.fullText).within "full_text" <;>
    cases (tuple text (.tuple d.facets)).within "facets" <;> rfl

/-- Every element of a list can be related to something exactly if a whole list can be. -/
theorem exists_forall₂_iff {α β : Type} {R : α → β → Prop} {xs : List α} :
    (∃ ys, List.Forall₂ R xs ys) ↔ ∀ x ∈ xs, ∃ y, R x y := by
  induction xs with
  | nil => simp
  | cons x r ih =>
    rw [List.forall_mem_cons, ← ih]
    constructor
    · rintro ⟨_, hys⟩
      obtain ⟨y, ys, hy, hr, rfl⟩ := List.forall₂_cons_left_iff.mp hys
      exact ⟨⟨y, hy⟩, ys, hr⟩
    · rintro ⟨⟨y, hy⟩, ys, hr⟩
      exact ⟨y :: ys, .cons hy hr⟩

/-- A request is built exactly if its full text and its facets pass, and it is made of what is read
    of these and of what the draft has. -/
theorem build_eq_ok_iff {d : Draft} {r : SearchRequest} : d.build = .ok r ↔
    ((d.fullText.isNull = true ∧ r.fullText = none)
        ∨ ∃ s, d.fullText.Spells s ∧ r.fullText = some s)
      ∧ List.Forall₂ Value.Spells d.facets r.facets ∧ r.filter = d.filter
      ∧ r.orderBy = d.orderBy ∧ r.skip = d.skip ∧ r.top = d.top
      ∧ r.includeTotalCount = d.includeTotalCount := by
  have htexts {xs : List Value} {ys : List String} :
      each text xs = .ok ys ↔ List.Forall₂ Value.Spells xs ys := by
    rw [each_eq_ok_iff]
    simp only [text_eq_ok_iff]
  -- a text is spelled by no null, so the second way needs no guard of its own
  have hnull {o : Option String} : nullable text d.fullText = .ok o ↔
      (d.fullText.isNull = true ∧ o = none) ∨ ∃ s, d.fullText.Spells s ∧ o = some s := by
    rw [nullable_eq_ok_iff]
    simp only [text_eq_ok_iff]
    apply or_congr_right
    constructor
    · exact fun h => h.2
    · rintro ⟨s, hs, ho⟩
      refine ⟨?_, s, hs, ho⟩
      rcases hs with hs | hs <;> rw [hs] <;> rfl
  rw [build, both_eq_ok_iff]
  simp only [within_eq_ok_iff, htexts, hnull]
  -- the arguments that are no texts are taken over as they are
  constructor
  · rintro ⟨o, facets, ho, hfacets, rfl⟩
    exact ⟨ho, hfacets, rfl, rfl, rfl, rfl, rfl⟩
  · rintro ⟨ho, hfacets, hfilter, hsort, hskip, htop, hcount⟩
    refine ⟨r.fullText, r.facets, ho, hfacets, ?_⟩
    rw [← hfilter, ← hsort, ← hskip, ← htop, ← hcount]

/-- A request is built exactly if the full text is null or passes for a text and every facet
    passes for one. -/
theorem exists_build_eq_ok_iff (d : Draft) : (∃ r, d.build = .ok r) ↔
    (d.fullText.isNull = true ∨ d.fullText.IsText) ∧ ∀ v ∈ d.facets, v.IsText := by
  constructor
  · rintro ⟨r, hr⟩
    obtain ⟨htext, hfacets, -⟩ := build_eq_ok_iff.mp hr
    exact ⟨htext.imp (fun h => h.1) fun ⟨s, hs, _⟩ => ⟨s, hs⟩,
      exists_forall₂_iff.mp ⟨r.facets, hfacets⟩⟩
  · rintro ⟨htext, hfacets⟩
    obtain ⟨ys, hys⟩ := exists_forall₂_iff.mpr hfacets
    obtain ⟨o, ho⟩ : ∃ o, (d.fullText.isNull = true ∧ o = none)
        -- an optional text is none of null and the text that is spelled else
        ∨ ∃ s, d.fullText.Spells s ∧ o = some s := by
      rcases htext with hnull | ⟨s, hs⟩
      · exact ⟨none, .inl ⟨hnull, rfl⟩⟩
      · exact ⟨some s, .inr ⟨s, hs, rfl⟩⟩
    exact ⟨⟨o, d.filter, d.orderBy, d.skip, d.top, ys, d.includeTotalCount⟩,
      build_eq_ok_iff.mpr ⟨ho, hys, rfl, rfl, rfl, rfl, rfl⟩⟩

/-- What is wrong with a request is wrong with its full text or its facets. -/
theorem place_of_build {d : Draft} {issues : List Issue} (h : d.build = .error issues) :
    ∀ i ∈ issues, ∃ rest, i.place = "full_text" :: rest ∨ i.place = "facets" :: rest := by
  intro i hi
  rcases mem_of_both h hi with ⟨is, htext, hi⟩ | ⟨js, hfacets, hi⟩
  · obtain ⟨rest, hrest⟩ := place_of_within htext i hi
    exact ⟨rest, .inl hrest⟩
  · obtain ⟨rest, hrest⟩ := place_of_within hfacets i hi
    exact ⟨rest, .inr hrest⟩

end Draft

/-! ### What is kept of an option -/

/-- The sort clauses are those of the keys, one for each. -/
theorem sortClauses_eq_ok_iff {keys : List SortOperand} {cs : List String} :
    sortClauses keys = .ok cs ↔ List.Forall₂ (fun k c => k.clause = .ok c) keys cs := by
  -- induction on the keys: the first clause, then those of the rest
  induction keys generalizing cs with
  | nil =>
    show Except.ok [] = Except.ok cs ↔ _
    rw [Except.ok.injEq, List.forall₂_nil_left_iff, eq_comm]
  | cons k r ih =>
    have hcons : sortClauses (k :: r)
        = k.clause >>= fun c => sortClauses r >>= fun cs => pure (c :: cs) := List.mapM_cons
    rw [hcons, bind_eq_ok_iff, List.forall₂_cons_left_iff]
    constructor
    · rintro ⟨c, hc, hrest⟩
      obtain ⟨ds, hds, heq⟩ := bind_eq_ok_iff.mp hrest
      exact ⟨c, ds, hc, ih.mp hds, (Except.ok.inj heq).symm⟩
    · rintro ⟨c, ds, hc, hds, rfl⟩
      exact ⟨c, hc, bind_eq_ok_iff.mpr ⟨ds, ih.mpr hds, rfl⟩⟩

/-- Of the values that can be given in place of sort keys only empty collections are accepted. -/
theorem eq_nil_of_sortClauses {xs : List Value} {cs : List String}
    (h : sortClauses (xs.map fun x => .other (.value x)) = .ok cs) : cs = [] := by
  cases xs with
  | nil => exact (Except.ok.inj h).symm
  | cons x r =>
    obtain ⟨c, ds, hc, -⟩ := List.forall₂_cons_left_iff.mp (sortClauses_eq_ok_iff.mp h)
    exact absurd hc (check_throw_ne_ok _ _ _)

/-- The numbers of results that are accepted are whole numbers that are not negative. -/
theorem Draft.countOf_eq_ok_iff {option : Paging} {v : Value} {n : Nat} :
    Draft.countOf option v = .ok n ↔ v = .int n := by
  cases v with
  | int m =>
    rw [Draft.countOf, Value.int.injEq]
    split
    · exact iff_of_false (fun h => by cases h) (by omega)
    · rw [Except.ok.injEq]
      omega
  | _ => exact iff_of_false (fun h => by cases h) (fun h => by cases h)

/-- The facets that are accepted are the elements of what is given. -/
theorem Draft.elements?_of_facetsOf {v : Value} {xs : List Value} (h : Draft.facetsOf v = .ok xs) :
    v.elements? = some xs := by
  have helements (v : Value) (h : Draft.elementsOf v = .ok xs) : v.elements? = some xs := by
    unfold Draft.elementsOf at h
    split at h
    · rename_i ys hys
      rw [hys, Except.ok.inj h]
    · cases h
  cases v with
  | text s => cases h
  | _ => exact helements _ h

/-! ### Parts of a draft and its history -/

section History

variable {k : OptionKind} {calls : List DraftCall} {o : SearchOption}

/-- The full text of a history of calls: the last one that is accepted, and null without one. -/
def lastFullText (calls : List DraftCall) : Value :=
  match lastAccepted .fullText calls with
  | some (.fullText v) => v
  | _ => .null

/-- The facets of a history of calls: the elements of the last ones that are accepted. -/
def lastFacets (calls : List DraftCall) : List Value :=
  match lastAccepted .facets calls with
  | some (.facets v) => v.elements?.getD []
  | _ => []

/-- What a request has to do with the calls on the draft it was built from: each part is that of the
    last option accepted for it. -/
structure SearchRequest.IsBuiltFrom (calls : List DraftCall) (r : SearchRequest) : Prop where
  /-- The full text is the one that the last one given passes for. -/
  fullText : ∀ s, r.fullText = some s ↔ (lastFullText calls).Spells s
  /-- The filter is the last one, written out. -/
  filter : ∀ w, r.filter = some w ↔
    ∃ f, lastAccepted .filter calls = some (.filter f) ∧ f.compile = .ok w
  /-- The clauses are those of the last sort keys, in order. -/
  sorted : ∀ keys, lastAccepted .sort calls = some (.sort keys) →
    sortClauses keys = .ok r.orderBy
  /-- There are no clauses without sort keys. -/
  unsorted : (∀ keys, lastAccepted .sort calls ≠ some (.sort keys)) → r.orderBy = []
  /-- The number of results to pass over is the last one. -/
  skip : ∀ n : Nat, r.skip = some n ↔ lastAccepted .skip calls = some (.skip (.int n))
  /-- The number of results to return is the last one. -/
  top : ∀ n : Nat, r.top = some n ↔ lastAccepted .top calls = some (.top (.int n))
  /-- The facets are those that the last ones given pass for, in order. -/
  facets : List.Forall₂ Value.Spells (lastFacets calls) r.facets
  /-- All results are counted if that was ever asked for. -/
  counted : r.includeTotalCount = true ↔ .set .totalCount ∈ calls

/-- The last accepted option of a kind has a setting, which is what the draft has. -/
theorem setting_of_lastAccepted (h : lastAccepted k calls = some o) :
    o.kind = k ∧ ∃ x, o.setting = .ok x
      ∧ Draft.AgreeOn k (Draft.ofCalls calls) (Draft.put {} x) := by
  obtain ⟨c, -, htakes⟩ := List.exists_of_findSome?_eq_some h
  obtain ⟨-, hkind, haccepted⟩ := takes?_eq_some_iff.mp htakes
  have hagree := Draft.agreeOn_ofCalls k calls
  rw [h] at hagree
  rw [Draft.isAccepted_eq] at haccepted
  -- an accepted option sets something, and the draft agrees with that setting on its kind
  cases hset : o.setting with
  | error e =>
    rw [hset] at haccepted
    cases haccepted
  | ok x =>
    refine ⟨hkind, x, rfl, ?_⟩
    rw [← Draft.after_of_setting_ok hset]
    exact hagree

/-- Without an accepted option of a kind a draft is as it was at first. -/
theorem agreeOn_of_lastAccepted_none (h : lastAccepted k calls = none) :
    Draft.AgreeOn k (Draft.ofCalls calls) {} := by
  have hagree := Draft.agreeOn_ofCalls k calls
  rwa [h] at hagree

/-- The full text of a draft is the last one that is accepted. -/
theorem fullText_ofCalls (calls : List DraftCall) :
    (Draft.ofCalls calls).fullText = lastFullText calls := by
  unfold lastFullText
  cases hlast : lastAccepted .fullText calls with
  | none => exact agreeOn_of_lastAccepted_none hlast
  | some o =>
    obtain ⟨hkind, x, hset, hagree⟩ := setting_of_lastAccepted hlast
    cases o <;> cases hkind
    cases hset
    exact hagree

/-- The facets of a draft are the elements of the last ones that are accepted. -/
theorem facets_ofCalls (calls : List DraftCall) :
    (Draft.ofCalls calls).facets = lastFacets calls := by
  unfold lastFacets
  cases hlast : lastAccepted .facets calls with
  | none => exact agreeOn_of_lastAccepted_none hlast
  | some o =>
    obtain ⟨hkind, x, hset, hagree⟩ := setting_of_lastAccepted hlast
    cases o <;> cases hkind
    rename_i v
    obtain ⟨xs, hxs, rfl⟩ := exists_of_map_eq_ok hset
    have hfacets : (Draft.ofCalls calls).facets = xs := hagree
    show (Draft.ofCalls calls).facets = v.elements?.getD []
    rw [hfacets, Draft.elements?_of_facetsOf hxs, Option.getD_some]

/-- The filter of a draft is the text of the last one that is accepted. -/
theorem filter_ofCalls {w : String} : (Draft.ofCalls calls).filter = some w ↔
    ∃ f, lastAccepted .filter calls = some (.filter f) ∧ f.compile = .ok w := by
  cases hlast : lastAccepted .filter calls with
  | none =>
    have hnone : (Draft.ofCalls calls).filter = none := agreeOn_of_lastAccepted_none hlast
    simp [hnone]
  | some o =>
    obtain ⟨hkind, x, hset, hagree⟩ := setting_of_lastAccepted hlast
    cases o <;> cases hkind
    obtain ⟨w', hw', rfl⟩ := exists_of_map_eq_ok hset
    have hfilter : (Draft.ofCalls calls).filter = some w' := hagree
    simp [hfilter, hw']

/-- The clauses of a draft are those of the last sort keys that are accepted. -/
theorem sortClauses_ofCalls {keys : List SortOperand}
    (hlast : lastAccepted .sort calls = some (.sort keys)) :
    sortClauses keys = .ok (Draft.ofCalls calls).orderBy := by
  obtain ⟨-, x, hset, hagree⟩ := setting_of_lastAccepted hlast
  obtain ⟨cs, hcs, rfl⟩ := exists_of_map_eq_ok hset
  have hsort : (Draft.ofCalls calls).orderBy = cs := hagree
  rw [hcs, hsort]

/-- A draft has no clauses if the last thing accepted for sort keys is not a list of them. -/
theorem orderBy_ofCalls_of_ne
    (hne : ∀ keys, lastAccepted .sort calls ≠ some (.sort keys)) :
    (Draft.ofCalls calls).orderBy = [] := by
  cases hlast : lastAccepted .sort calls with
  | none => exact agreeOn_of_lastAccepted_none hlast
  | some o =>
    obtain ⟨hkind, x, hset, hagree⟩ := setting_of_lastAccepted hlast
    cases o <;> cases hkind
    · exact absurd hlast (hne _)
    · obtain ⟨cs, hcs, rfl⟩ := exists_of_map_eq_ok hset
      obtain ⟨xs, -, hxs⟩ := bind_eq_ok_iff.mp hcs
      have hsort : (Draft.ofCalls calls).orderBy = cs := hagree
      rw [hsort, eq_nil_of_sortClauses hxs]

/-- The number of results to pass over is the last one that is accepted. -/
theorem skip_ofCalls {n : Nat} : (Draft.ofCalls calls).skip = some n ↔
    lastAccepted .skip calls = some (.skip (.int n)) := by
  cases hlast : lastAccepted .skip calls with
  | none =>
    have hnone : (Draft.ofCalls calls).skip = none := agreeOn_of_lastAccepted_none hlast
    simp [hnone]
  | some o =>
    obtain ⟨hkind, x, hset, hagree⟩ := setting_of_lastAccepted hlast
    cases o <;> cases hkind
    obtain ⟨m, hm, rfl⟩ := exists_of_map_eq_ok hset
    have hskip : (Draft.ofCalls calls).skip = some m := hagree
    rw [Draft.countOf_eq_ok_iff.mp hm, hskip]
    simp only [Option.some.injEq, SearchOption.skip.injEq, Value.int.injEq, Int.natCast_inj]

/-- The number of results to return is the last one that is accepted. -/
theorem top_ofCalls {n : Nat} : (Draft.ofCalls calls).top = some n ↔
    lastAccepted .top calls = some (.top (.int n)) := by
  cases hlast : lastAccepted .top calls with
  | none =>
    have hnone : (Draft.ofCalls calls).top = none := agreeOn_of_lastAccepted_none hlast
    simp [hnone]
  | some o =>
    obtain ⟨hkind, x, hset, hagree⟩ := setting_of_lastAccepted hlast
    cases o <;> cases hkind
    obtain ⟨m, hm, rfl⟩ := exists_of_map_eq_ok hset
    have htop : (Draft.ofCalls calls).top = some m := hagree
    rw [Draft.countOf_eq_ok_iff.mp hm, htop]
    simp only [Option.some.injEq, SearchOption.top.injEq, Value.int.injEq, Int.natCast_inj]

/-- A draft asks for all results to be counted once it has been told to. -/
theorem includeTotalCount_ofCalls :
    (Draft.ofCalls calls).includeTotalCount = true ↔ .set .totalCount ∈ calls := by
  -- the count is asked for by an option without an argument, so every such call is accepted
  cases hlast : lastAccepted .totalCount calls with
  | none =>
    have hnone : (Draft.ofCalls calls).includeTotalCount = false :=
      agreeOn_of_lastAccepted_none hlast
    rw [hnone]
    apply iff_of_false Bool.false_ne_true
    intro hmem
    have hsome := lastAccepted_totalCount_eq_some_iff.mpr ⟨rfl, hmem⟩
    rw [hlast] at hsome
    cases hsome
  | some o =>
    obtain ⟨rfl, hmem⟩ := lastAccepted_totalCount_eq_some_iff.mp hlast
    obtain ⟨-, x, hset, hagree⟩ := setting_of_lastAccepted hlast
    cases hset
    have hcounted : (Draft.ofCalls calls).includeTotalCount = true := hagree
    exact iff_of_true hcounted hmem

/-- A request that is built after calls is made of the last options accepted in them. -/
theorem isBuiltFrom_of_build {r : SearchRequest} (h : (Draft.ofCalls calls).build = .ok r) :
    r.IsBuiltFrom calls := by
  obtain ⟨htext, hfacets, hfilter, hsort, hskip, htop, hcount⟩ := Draft.build_eq_ok_iff.mp h
  -- each part of the request is read off the draft, and that of the draft off its history
  rw [fullText_ofCalls] at htext
  rw [facets_ofCalls] at hfacets
  constructor
  · intro s
    rcases htext with ⟨hnull, hnone⟩ | ⟨t, ht, hsome⟩
    · rw [hnone]
      refine iff_of_false (fun h => by cases h) (fun hs => ?_)
      rcases hs with hs | hs <;> rw [hs] at hnull <;> cases hnull
    · rw [hsome, ← Checked.text_eq_ok_iff, Checked.text_eq_ok_iff.mpr ht, Option.some.injEq,
        Except.ok.injEq]
  · intro w
    rw [hfilter, filter_ofCalls]
  · intro keys hlast
    rw [hsort, sortClauses_ofCalls hlast]
  · intro hne
    rw [hsort, orderBy_ofCalls_of_ne hne]
  · intro n
    rw [hskip, skip_ofCalls]
  · intro n
    rw [htop, top_ofCalls]
  · exact hfacets
  · rw [hcount, includeTotalCount_ofCalls]

/-- **What can be built after calls.** Building is the check of all parts of a request, and it fails
    exactly if the last accepted full text is neither null nor passes for a text, or one of the last
    accepted facets passes for none. All that it reports is wrong with these two parts. A request
    that is built has the last accepted filter as it was written out, the clauses of the last
    accepted sort keys in order, and the last accepted numbers, however large, or none where there
    is no accepted option. -/
theorem Draft.build_ofCalls (calls : List DraftCall) :
    (ofCalls calls).build = SearchRequest.ofValue (.ofFields (ofCalls calls).arguments)
      ∧ ((∃ issues, (ofCalls calls).build = .error issues) ↔
        (¬ ((lastFullText calls).isNull = true ∨ (lastFullText calls).IsText)
          ∨ ∃ v ∈ lastFacets calls, ¬ v.IsText))
      ∧ (∀ issues, (ofCalls calls).build = .error issues → ∀ i ∈ issues,
        ∃ rest, i.place = "full_text" :: rest ∨ i.place = "facets" :: rest)
      ∧ ∀ r, (ofCalls calls).build = .ok r → r.IsBuiltFrom calls := by
  refine ⟨build_eq_ofValue _, ?_, fun issues h => place_of_build h,
    fun r h => isBuiltFrom_of_build h⟩
  -- a build fails or gives a request, never both
  have hfails : (∃ issues, (ofCalls calls).build = .error issues) ↔
      ¬ ∃ r, (ofCalls calls).build = .ok r := by
    cases (ofCalls calls).build with
    | ok r => exact iff_of_false (fun ⟨_, h⟩ => by cases h) (fun h => h ⟨r, rfl⟩)
    | error issues => exact iff_of_true ⟨issues, rfl⟩ (fun ⟨_, h⟩ => by cases h)
  rw [hfails, exists_build_eq_ok_iff, fullText_ofCalls, facets_ofCalls, not_and_or]
  simp only [not_forall, exists_prop]

/-- A number of results to pass over that no machine word holds, a full text that is given as bytes,
    and facets that are numbers. -/
theorem Draft.build_ofCalls_bytes :
    let calls : List DraftCall := [.set (.fullText (.bytes [0x63, 0x61, 0x66, 0xC3, 0xA9])),
      .set (.skip (.int 5)), .set (.skip (.int (10 ^ 30))), .build, .set (.skip (.int (-1))),
      .set (.sortValue (.list []))]
    (∃ r, (ofCalls calls).build = .ok r ∧ r.skip = some (10 ^ 30) ∧ r.fullText = some "café")
      ∧ ∃ issues, (ofCalls (calls ++ [.set (.facets (.bytes [0x63]))])).build = .error issues
        ∧ ∀ i ∈ issues, ∃ rest, i.place = "full_text" :: rest ∨ i.place = "facets" :: rest := by
  intro calls
  have hspells : (lastFullText calls).Spells "café" := .inr rfl
  obtain ⟨-, hfails, -, hbuilt⟩ := build_ofCalls calls
  obtain ⟨-, hfails', hplace, -⟩ := build_ofCalls (calls ++ [.set (.facets (.bytes [0x63]))])
  constructor
  · cases h : (ofCalls calls).build with
    | ok r =>
      exact ⟨r, rfl, ((hbuilt r h).skip _).mpr rfl, ((hbuilt r h).fullText _).mpr hspells⟩
    | error issues =>
      rcases hfails.mp ⟨issues, h⟩ with htext | ⟨v, hv, -⟩
      · exact absurd (.inr ⟨_, hspells⟩) htext
      · cases hv
  · -- a list of numbers is a facet list to the draft and no list of texts to the request
    have hnumber : ¬ (Value.int 0x63).IsText := by
      rintro ⟨s, hs | hs⟩ <;> cases hs
    obtain ⟨issues, h⟩ := hfails'.mpr (.inr ⟨_, List.mem_singleton.mpr rfl, hnumber⟩)
    exact ⟨issues, h, hplace issues h⟩

end History

end IndexSearch
