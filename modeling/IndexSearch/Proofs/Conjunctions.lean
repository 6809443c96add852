import IndexSearch.Proofs.FilterFaults
import Mathlib.Data.List.Forall2

namespace IndexSearch

/-!
# Filters of which all hold

`Filter.all` joins the filters of a list to one that holds of everything, the first of them first.
So a list may be joined in two parts, the second to what has come of the first, and what comes of it
leans to the left: the text of everything joined so far stands before the text of the next filter.
Nothing is asked of the filters, and no join can fail. What cannot be written is found when the text
is made, in the order of the list.

* `Filter.foldlM_join` — joining with all checks made does not fail;
* `Filter.compile_and_eq_ok_iff`, `Filter.compile_foldl_and_eq_ok_iff` — the text of one join, and of
  one join after another;
* `Filter.compile_foldl_and_failsFirst` — the faults of one join after another;
* `Filter.all_in_order` — how a list is joined and what it is written as.
-/

namespace Filter

/-- The combiner that the word `and` names can be used to join any two filters. -/
theorem join_and (l r : Filter) : join l (.text "and") r = .ok (and l r) := rfl

/-- Joining one filter after another, the combiner looked up each time, does not fail. -/
theorem foldlM_join (f : Filter) (xs : List Filter) :
    xs.foldlM (fun l r => join l (.text "and") r) f = .ok (xs.foldl and f) := by
  induction xs generalizing f with
  | nil => rfl
  | cons x r ih =>
    rw [List.foldlM_cons, join_and]
    exact ih (and f x)

/-! ### The texts -/

/-- Two filters that both hold are written as these are, with `and` between them. -/
theorem compile_and_eq_ok_iff {l r : Filter} {s : String} :
    (and l r).compile = .ok s ↔
      ∃ t u, l.compile = .ok t ∧ r.compile = .ok u ∧ s = t ++ " and " ++ u := by
  have htext : ∀ t u : String,
      t ++ " " ++ Combiner.and.word ++ " " ++ u = t ++ " and " ++ u := by
    intro t u
    simp only [String.append_assoc]
    rfl
  rw [and, compile_joined_eq_ok_iff]
  simp only [htext]

/-- **The text of one filter after another** is made of their texts in order, if they all have
    one. -/
theorem compile_foldl_and_eq_ok_iff {f : Filter} {xs : List Filter} {s : String} :
    (xs.foldl and f).compile = .ok s ↔
      ∃ t us, f.compile = .ok t ∧ List.Forall₂ (fun x u => x.compile = .ok u) xs us
        ∧ s = " and ".intercalate (t :: us) := by
  induction xs generalizing f with
  | nil => simp [eq_comm]
  | cons x r ih =>
    -- the text of what is joined first becomes the first text of the list
    rw [List.foldl_cons, ih]
    constructor
    · rintro ⟨_, us, hfx, hr, rfl⟩
      obtain ⟨t, u, hf, hx, rfl⟩ := compile_and_eq_ok_iff.mp hfx
      exact ⟨t, u :: us, hf, .cons hx hr, rfl⟩
    · rintro ⟨t, _, hf, hxs, rfl⟩
      obtain ⟨u, us, hx, hr, rfl⟩ := List.forall₂_cons_left_iff.mp hxs
      exact ⟨_, us, compile_and_eq_ok_iff.mpr ⟨t, u, hf, hx, rfl⟩, hr, rfl⟩

/-! ### The faults -/

/-- One filter after another has the faults of the first, then those of the others in order. -/
theorem compile_foldl_and_failsFirst {f : Filter} {es : List QueryError}
    (hf : FailsFirst es f.compile) (xs : List Filter) :
    FailsFirst (es ++ xs.flatMap fun x => x.leaves.flatMap faults) (xs.foldl and f).compile := by
  induction xs generalizing f es with
  | nil =>
    rw [List.flatMap_nil, List.append_nil]
    exact hf
  | cons x r ih =>
    have hjoined : FailsFirst (es ++ x.leaves.flatMap faults) (and f x).compile :=
      hf.bind fun t => x.compile_failsFirst.bind_pure fun u =>
        t ++ " " ++ Combiner.and.word ++ " " ++ u
    rw [List.flatMap_cons, ← List.append_assoc]
    exact ih hjoined

/-- Writing all filters of a list fails with the error of the first of them that has no text. -/
theorem compile_all_eq_error_iff {xs : List Filter} {e : QueryError} :
    (Filter.all xs).compile = .error e ↔ ∃ front x rest, xs = front ++ x :: rest ∧
      (∀ y ∈ front, ∃ t, y.compile = .ok t) ∧ x.compile = .error e := by
  have hall : FailsFirst (xs.flatMap fun x => x.leaves.flatMap faults) (Filter.all xs).compile :=
    compile_foldl_and_failsFirst (f := identity) (failsFirst_nil "true") xs
  rw [hall.eq_error_iff, List.head?_flatMap, List.findSome?_eq_some_iff]
  refine exists_congr fun front => exists_congr fun x => exists_congr fun rest => ?_
  refine and_congr_right fun _ => and_comm.trans (and_congr ?_ ?_)
  · refine forall₂_congr fun y _ => ?_
    rw [List.head?_eq_none_iff, y.compile_failsFirst.exists_ok_iff]
  · rw [x.compile_failsFirst.eq_error_iff]

/-- **All filters of a list are joined and written in order.** A list of any filters, and of anything
    in their place, may be joined in two parts; joining it with all checks made, from the filter that
    holds of everything, does not fail. The result has a text exactly if each of them has one: `true`,
    then their texts in order, each after `and`. Otherwise it fails with the error of the first that
    has none. -/
theorem all_in_order (xs ys : List Filter) :
    Filter.all (xs ++ ys) = ys.foldl Filter.and (Filter.all xs) ∧
    (do let f ← onField .null (.text "eq") .null
        xs.foldlM (fun l r => join l (.text "and") r) f) = .ok (Filter.all xs) ∧
    (∀ s, (Filter.all xs).compile = .ok s ↔
      ∃ texts, List.Forall₂ (fun x t => x.compile = .ok t) xs texts
        ∧ s = " and ".intercalate ("true" :: texts)) ∧
    ∀ e, (Filter.all xs).compile = .error e ↔ ∃ front x rest, xs = front ++ x :: rest ∧
      (∀ y ∈ front, ∃ t, y.compile = .ok t) ∧ x.compile = .error e := by
  refine ⟨List.foldl_append, foldlM_join identity xs, fun s => ?_,
    fun e => compile_all_eq_error_iff⟩
  rw [Filter.all, compile_foldl_and_eq_ok_iff]
  constructor
  · rintro ⟨t, us, ht, hus, rfl⟩
    cases ht
    exact ⟨us, hus, rfl⟩
  · rintro ⟨us, hus, rfl⟩
    exact ⟨"true", us, rfl, hus, rfl⟩

-- an `or` of the list is written like any other filter, and not kept apart from its neighbours
example :
    let compared : String → Filter := fun s => .field ⟨.text s, .eq, some (.bool true)⟩
    (Filter.all [identity, (compared "a").or (compared "b"), compared "c"]).compile
      = .ok "true and true and a eq true or b eq true and c eq true" := rfl

end Filter

end IndexSearch
