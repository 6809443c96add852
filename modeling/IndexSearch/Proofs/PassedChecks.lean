import IndexSearch.Proofs.JsonObjects
import IndexSearch.Validation.Scalar
import Mathlib.Data.List.Forall2

namespace IndexSearch

/-!
# Checks that pass

A check that passes has passed for every part, and its result is made of the results of the parts.
For each way to combine checks there is an `iff` that takes such a result apart, so that no proof
about checked data needs to look at issues.

* `Checked.ap_eq_ok_iff`, `Checked.each_eq_ok_iff`, `Checked.nullable_eq_ok_iff` — combined checks;
* `Checked.mapping_ofFields_eq_ok_iff` — mappings whose keys are texts;
* `Checked.optional_eq` — a part that is given under the first of its names, if at all.
-/

/-- A mapping with texts as keys has under a name what its fields have. -/
theorem Value.field?_ofFields (name : String) (fields : List (String × Value)) :
    Value.field? name (fields.map fun (k, v) => (.text k, v)) = Json.field? name fields := by
  induction fields with
  | nil => rfl
  | cons f r ih =>
    rw [List.map_cons, Value.field?, ih]
    by_cases h : f.1 = name <;> simp [Json.field?, h]

namespace Checked

variable {α β γ : Type}

/-- Two checks are passed together exactly if each of them is. -/
theorem both_eq_ok_iff {f : α → β → γ} {a : Checked α} {b : Checked β} {c : γ} :
    both f a b = .ok c ↔ ∃ x y, a = .ok x ∧ b = .ok y ∧ f x y = c := by
  cases a <;> cases b <;> simp [both]

/-- A checked function applied to a checked argument. -/
theorem ap_eq_ok_iff {f : Checked (α → β)} {a : Checked α} {b : β} :
    ap f a = .ok b ↔ ∃ g x, f = .ok g ∧ a = .ok x ∧ g x = b := both_eq_ok_iff

/-- Where a check is placed does not matter for its result. -/
@[simp] theorem within_eq_ok_iff {part : String} {a : Checked α} {x : α} :
    a.within part = .ok x ↔ a = .ok x := mapError_eq_ok_iff

/-- A list of checks passes with the list of their results. -/
theorem all_eq_ok_iff {checks : List (Checked α)} {xs : List α} :
    all checks = .ok xs ↔ checks = xs.map .ok := by
  -- induction on the checks, with the list of their results left general
  induction checks generalizing xs with
  | nil => cases xs <;> simp [all]
  | cons a r ih =>
    rw [all, both_eq_ok_iff]
    constructor
    · rintro ⟨x, ys, rfl, hr, rfl⟩
      rw [ih.mp hr]
      rfl
    · intro h
      cases xs with
      | nil => cases h
      | cons x ys =>
        obtain ⟨rfl, hr⟩ := List.cons.inj h
        exact ⟨x, ys, rfl, ih.mpr hr, rfl⟩

/-- The values of a list are checked one by one. -/
theorem each_eq_ok_iff {check : Value → Checked α} {xs : List Value} {ys : List α} :
    each check xs = .ok ys ↔ List.Forall₂ (fun x y => check x = .ok y) xs ys := by
  -- the number of the first place is left general, since it goes up in the rest
  have hfrom : ∀ n, ((xs.zipIdx n).map fun p => (check p.1).within (toString p.2)) = ys.map .ok
      ↔ List.Forall₂ (fun x y => check x = .ok y) xs ys := by
    induction xs generalizing ys with
    | nil => cases ys <;> simp
    | cons x r ih =>
      intro n
      cases ys with
      | nil => simp
      | cons y s =>
        rw [List.zipIdx_cons, List.map_cons, List.map_cons, List.cons.injEq, within_eq_ok_iff,
          ih (n + 1), List.forall₂_cons]
  rw [each, all_eq_ok_iff]
  exact hfrom 0

/-- What passes a check of a list is a sequence whose elements pass. -/
theorem list_eq_ok_iff {check : Value → Checked α} {v : Value} {ys : List α} :
    list check v = .ok ys
      ↔ ∃ xs, sequence? v = some xs ∧ List.Forall₂ (fun x y => check x = .ok y) xs ys := by
  unfold list
  cases sequence? v with
  | none => simp [fault]
  | some xs => simp [each_eq_ok_iff]

/-- Null passes, and any other value that does. -/
theorem nullable_eq_ok_iff {check : Value → Checked α} {v : Value} {o : Option α} :
    nullable check v = .ok o ↔
      (v.isNull = true ∧ o = none) ∨ (v.isNull = false ∧ ∃ x, check v = .ok x ∧ o = some x) := by
  unfold nullable
  cases v.isNull with
  | true => simp [eq_comm]
  | false => cases check v <;> simp [Except.map, eq_comm]

/-- In a mapping with texts as keys the values are checked, and the names stay. -/
theorem mapping_ofFields_eq_ok_iff {check : Value → Checked α} {fields : List (String × Value)}
    {gs : List (String × α)} : mapping check (Value.ofFields fields) = .ok gs ↔
      List.Forall₂ (fun f g => g.1 = f.1 ∧ check f.2 = .ok g.2) fields gs := by
  -- an entry passes where its value does, and keeps its name
  have hentry (f : String × Value) (g : String × α) :
      entry check (.text f.1, f.2) = .ok g ↔ g.1 = f.1 ∧ check f.2 = .ok g.2 := by
    rw [entry, both_eq_ok_iff]
    simp only [within_eq_ok_iff, text, Except.ok.injEq]
    constructor
    · rintro ⟨name, x, rfl, hx, rfl⟩
      exact ⟨rfl, hx⟩
    · rintro ⟨hname, hx⟩
      exact ⟨f.1, g.2, rfl, hx, by rw [← hname]⟩
  rw [Value.ofFields, mapping, all_eq_ok_iff]
  induction fields generalizing gs with
  | nil => cases gs <;> simp
  | cons f r ih =>
    cases gs with
    | nil => simp
    | cons g s =>
      rw [List.map_cons, List.map_cons, List.map_cons, List.cons.injEq, hentry, List.forall₂_cons]
      exact and_congr_right fun _ => ih

/-- Values that are taken as they are stay as they are. -/
theorem mapping_ok_ofFields (fields : List (String × Value)) :
    mapping .ok (Value.ofFields fields) = .ok fields := by
  rw [mapping_ofFields_eq_ok_iff, List.forall₂_same]
  exact fun f _ => ⟨rfl, rfl⟩

/-- Where none of its other names occurs, a part is checked under the first. -/
theorem optional_eq {name : String} {others : List String} {absent : α}
    {check : Value → Checked α} {fields : List (String × Value)}
    (hothers : ∀ other ∈ others, Json.field? other fields = none) :
    optional (name :: others) absent check (fields.map fun (k, v) => (.text k, v)) =
      match Json.field? name fields with
      | none => .ok absent
      | some v => (check v).within name := by
  -- under none of the other names there is a part
  have hnone : part? others (fields.map fun (k, v) => (.text k, v)) = none := by
    rw [part?, List.findSome?_eq_none_iff]
    intro other hother
    rw [Value.field?_ofFields, hothers other hother]
    rfl
  have hpart : part? (name :: others) (fields.map fun (k, v) => (.text k, v)) =
      (Json.field? name fields).map fun v => (name, v) := by
    rw [part?, List.findSome?_cons, Value.field?_ofFields]
    cases Json.field? name fields with
    | none => exact hnone
    | some v => rfl
  rw [optional, hpart]
  cases Json.field? name fields <;> rfl

/-- A part that is given is checked under its name. -/
theorem optional_of_field? {name : String} {absent : α} {check : Value → Checked α}
    {fields : List (String × Value)} {v : Value} (h : Json.field? name fields = some v) :
    optional [name] absent check (fields.map fun (k, v) => (.text k, v))
      = (check v).within name := by
  rw [optional_eq fun other hother => absurd hother List.not_mem_nil, h]

end Checked

end IndexSearch
