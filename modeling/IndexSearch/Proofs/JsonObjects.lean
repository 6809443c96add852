import IndexSearch.Json.Reader
import IndexSearch.Proofs.Outcomes
import Mathlib.Data.List.Basic

namespace IndexSearch.Json

open Number

/-!
# What can be read

An object in a text may name a field twice, and the reader keeps one of the values. So no object
that has been read names a field twice, and no whole number that has been read is too long. Only
values that are like this can be read back from what is written for them.

* `Readable` — no object within a value has a name twice, and its whole numbers fit;
* `distinctFields_of_nodup` — fields without a name twice are kept as they are;
* `readable_of_text`, `readable_of_ofBytes` — what is read is readable.
-/

/-! ### Values that can be read -/

mutual

/-- Whether the value can be what is read: all whole numbers within it fit, and no object within it
    has a name twice. -/
def Readable (fits : Int → Bool) : Json → Prop
  | int n => fits n = true
  | array items => ReadableItems fits items
  | object fields => (fields.map Prod.fst).Nodup ∧ ReadableFields fits fields
  | _ => True

/-- Whether each of the values can be what is read. -/
def ReadableItems (fits : Int → Bool) : List Json → Prop
  | [] => True
  | j :: r => Readable fits j ∧ ReadableItems fits r

/-- Whether the value of each of the fields can be what is read. -/
def ReadableFields (fits : Int → Bool) : List (String × Json) → Prop
  | [] => True
  | (_, v) :: r => Readable fits v ∧ ReadableFields fits r

end

variable {fits : Int → Bool}

/-- Fields are readable if their values are. -/
theorem readableFields_iff {fields : List (String × Json)} :
    ReadableFields fits fields ↔ ∀ f ∈ fields, Readable fits f.2 := by
  induction fields with
  | nil => simp [ReadableFields]
  | cons f r ih => simp [ReadableFields, ih]

/-- A list is readable if its values are. -/
theorem readableItems_iff {items : List Json} :
    ReadableItems fits items ↔ ∀ j ∈ items, Readable fits j := by
  induction items with
  | nil => simp [ReadableItems]
  | cons j r ih => simp [ReadableItems, ih]

/-! ### Names -/

/-- A new name is put at the end. -/
theorem insertField_of_notMem {α : Type} {name : String} (v : α) {fields : List (String × α)}
    (h : name ∉ fields.map Prod.fst) : insertField name v fields = fields ++ [(name, v)] := by
  induction fields with
  | nil => rfl
  | cons f r ih =>
    rw [List.map_cons, List.mem_cons, not_or] at h
    rw [insertField, if_neg (Ne.symm h.1), ih h.2, List.cons_append]

/-- Fields without a name twice are kept as they are. -/
theorem distinctFields_of_nodup {α : Type} {fields : List (String × α)}
    (h : (fields.map Prod.fst).Nodup) : distinctFields fields = fields := by
  have hfold : ∀ (fs acc : List (String × α)), ((acc ++ fs).map Prod.fst).Nodup →
      fs.foldl (fun fs f => insertField f.1 f.2 fs) acc = acc ++ fs := by
    intro fs
    -- the names of the fields that come are new: they are neither among those that were there
    -- nor, one after the other, among each other
    induction fs with
    | nil => intro acc _; simp
    | cons f r ih =>
      intro acc hnodup
      obtain ⟨name, v⟩ := f
      have hnew : name ∉ acc.map Prod.fst := by
        rw [List.map_append, List.map_cons, List.nodup_append] at hnodup
        intro hmem
        exact hnodup.2.2 _ hmem _ List.mem_cons_self rfl
      have happend : acc ++ [(name, v)] ++ r = acc ++ (name, v) :: r := by simp
      -- a new name is put at the end, so the order stays as it is
      show r.foldl _ (insertField name v acc) = acc ++ (name, v) :: r
      rw [insertField_of_notMem v hnew, ih _ (happend ▸ hnodup), happend]
  exact hfold fields [] h

/-! ### Fields under their names -/

/-- Nothing is under a name that no field has. -/
theorem field?_eq_none_iff {α : Type} {name : String} {fields : List (String × α)} :
    field? name fields = none ↔ ∀ f ∈ fields, f.1 ≠ name := by
  simp [field?]

/-- A field is looked for among the first ones, and then among the others. -/
theorem field?_append {α : Type} (name : String) (fs gs : List (String × α)) :
    field? name (fs ++ gs) = (field? name fs).or (field? name gs) := by
  simp only [field?, List.find?_append]
  cases fs.find? fun f => f.1 = name <;> rfl

/-! ### What is read -/

/-- The names after a field is put are those before, and its own. -/
theorem mem_map_fst_insertField {α : Type} {name a : String} {v : α} {fields : List (String × α)}
    (h : a ∈ (insertField name v fields).map Prod.fst) : a = name ∨ a ∈ fields.map Prod.fst := by
  induction fields with
  | nil => exact .inl (List.mem_singleton.mp h)
  | cons f r ih =>
    rw [insertField] at h
    split at h
    · exact .inr h
    · rcases List.mem_cons.mp h with rfl | h
      · exact .inr List.mem_cons_self
      · exact (ih h).imp_right (List.mem_cons_of_mem f.1)

/-- No name occurs twice after a field is put, if none did before. -/
theorem nodup_insertField {α : Type} (name : String) (v : α) {fields : List (String × α)}
    (h : (fields.map Prod.fst).Nodup) : ((insertField name v fields).map Prod.fst).Nodup := by
  induction fields with
  | nil => exact List.nodup_cons.mpr ⟨List.not_mem_nil, List.nodup_nil⟩
  | cons f r ih =>
    obtain ⟨hf, hr⟩ := List.nodup_cons.mp h
    rw [insertField]
    split
    · exact h
    · rename_i hne
      refine List.nodup_cons.mpr ⟨fun hmem => ?_, ih hr⟩
      rcases mem_map_fst_insertField hmem with hname | hmem
      · exact hne hname
      · exact hf hmem

/-- What is so of the values of all fields stays so if it is so of the value that is put. -/
theorem of_mem_insertField {α : Type} {P : α → Prop} {name : String} {v : α} (hv : P v)
    {fields : List (String × α)} (h : ∀ f ∈ fields, P f.2) :
    ∀ f ∈ insertField name v fields, P f.2 := by
  induction fields with
  | nil =>
    intro f hf
    rw [List.mem_singleton.mp hf]
    exact hv
  | cons g r ih =>
    intro f hf
    rw [insertField] at hf
    have hg := h g List.mem_cons_self
    have hr : ∀ f ∈ r, P f.2 := fun f hf => h f (List.mem_cons_of_mem g hf)
    split at hf
    · -- the name was there, and its value is the new one
      rcases List.mem_cons.mp hf with rfl | hf
      · exact hv
      · exact hr f hf
    · rcases List.mem_cons.mp hf with rfl | hf
      · exact hg
      · exact ih hr f hf

/-- No name occurs twice among the fields of an object that is read, and their values are among
    those that were read. -/
theorem distinctFields_spec {α : Type} {P : α → Prop} {fields : List (String × α)}
    (h : ∀ f ∈ fields, P f.2) :
    ((distinctFields fields).map Prod.fst).Nodup ∧ ∀ f ∈ distinctFields fields, P f.2 := by
  -- the fold is over the fields that are left, with those that are there already left general
  have hfold : ∀ (fs acc : List (String × α)), (∀ f ∈ fs, P f.2) →
      (acc.map Prod.fst).Nodup ∧ (∀ f ∈ acc, P f.2) →
      ((fs.foldl (fun fs f => insertField f.1 f.2 fs) acc).map Prod.fst).Nodup
        ∧ ∀ f ∈ fs.foldl (fun fs f => insertField f.1 f.2 fs) acc, P f.2 := by
    intro fs
    induction fs with
    | nil => intro acc _ hacc; exact hacc
    | cons f r ih =>
      intro acc hfs hacc
      exact ih (insertField f.1 f.2 acc) (fun g hg => hfs g (List.mem_cons_of_mem f hg))
        ⟨nodup_insertField f.1 f.2 hacc.1,
          of_mem_insertField (hfs f List.mem_cons_self) hacc.2⟩
  exact hfold fields [] h ⟨List.nodup_nil, by simp⟩

/-- A word is no whole number. -/
theorem readable_of_word? {cs rest : List Char} {j : Json} (h : word? cs = some (j, rest)) :
    j.Readable fits := by
  have hwords : ∀ w ∈ words, w.2.Readable fits := by simp [words, Readable]
  obtain ⟨w, hw, hmatch⟩ := List.exists_of_findSome?_eq_some h
  obtain ⟨r, -, hr⟩ := Option.map_eq_some_iff.mp hmatch
  exact (Prod.mk.inj hr).1 ▸ hwords w hw

/-- A number is whole or a double. -/
theorem of_number? {cs rest : List Char} {j : Json} (h : number? cs = some (j, rest)) :
    (∃ n, j = int n) ∨ ∃ x, j = real x := by
  unfold number? at h
  split at h
  split at h
  split at h
  · cases h
  · split at h
    split at h
    split at h
    · exact .inl ⟨_, (Prod.mk.inj (Option.some.inj h)).1.symm⟩
    · obtain ⟨n, -, hn⟩ := Option.map_eq_some_iff.mp h
      exact .inr ⟨_, (Prod.mk.inj hn).1.symm⟩

/-- A whole number is read only if it fits. -/
theorem readable_of_readScalar {cs rest : List Char} {j : Json}
    (h : readScalar fits cs = .ok (j, rest)) : j.Readable fits := by
  unfold readScalar at h
  -- a word is read as it is; a number is looked at, and a whole one has to fit
  split at h
  · rename_i x hword
    exact readable_of_word? (Except.ok.inj h ▸ hword)
  · split at h
    · split at h
      · rename_i hfits
        rw [← (Prod.mk.inj (Except.ok.inj h)).1]
        exact hfits
      · cases h
    · rename_i x hwhole hnumber
      cases h
      rcases of_number? hnumber with ⟨n, rfl⟩ | ⟨x, rfl⟩
      · exact absurd rfl (hwhole n rest)
      · trivial
    · cases h

/-- One step of reading values: the first one and the others. -/
theorem readItems_inv {fuel : Nat} {cs rest : List Char} {items : List Json}
    (h : readItems fits (fuel + 1) cs = .ok (items, rest)) :
    ∃ j r mid, items = j :: r ∧ readValue fits fuel cs = .ok (j, mid)
      ∧ (r = [] ∨ ∃ cs', readItems fits fuel cs' = .ok (r, rest)) := by
  simp only [readItems, bind, Except.bind] at h
  split at h
  · cases h
  · rename_i x hvalue
    -- after an item stands the end of the list, or a comma and more of them
    split at h
    · obtain ⟨rfl, -⟩ := Prod.mk.inj (Except.ok.inj h)
      exact ⟨x.1, [], x.2, rfl, hvalue, .inl rfl⟩
    · split at h
      · cases h
      · rename_i y hitems
        obtain ⟨rfl, rfl⟩ := Prod.mk.inj (Except.ok.inj h)
        exact ⟨x.1, y.1, x.2, rfl, hvalue, .inr ⟨_, hitems⟩⟩
    · cases h

/-- One step of reading fields: the first one and the others. -/
theorem readFields_inv {fuel : Nat} {cs rest : List Char} {fields : List (String × Json)}
    (h : readFields fits (fuel + 1) cs = .ok (fields, rest)) :
    ∃ k v r cs' mid, fields = (k, v) :: r ∧ readValue fits fuel cs' = .ok (v, mid)
      ∧ (r = [] ∨ ∃ cs'', readFields fits fuel cs'' = .ok (r, rest)) := by
  simp only [readFields, bind, Except.bind] at h
  split at h
  · split at h
    · cases h
    · split at h
      · split at h
        · cases h
        · rename_i k _ _ _ x hvalue
          -- after a field stands the end of the object, or a comma and more of them
          split at h
          · obtain ⟨rfl, -⟩ := Prod.mk.inj (Except.ok.inj h)
            exact ⟨_, x.1, [], _, x.2, rfl, hvalue, .inl rfl⟩
          · split at h
            · cases h
            · rename_i y hfields
              obtain ⟨rfl, rfl⟩ := Prod.mk.inj (Except.ok.inj h)
              exact ⟨_, x.1, y.1, _, x.2, rfl, hvalue, .inr ⟨_, hfields⟩⟩
          · cases h
      · cases h
  · cases h

/-- One step of reading a value: its parts are readable if those are that are read with one step
    less. -/
theorem readable_of_readValue_succ {fuel : Nat}
    (hitems : ∀ {cs rest items}, readItems fits fuel cs = .ok (items, rest) →
      ReadableItems fits items)
    (hfields : ∀ {cs rest fields}, readFields fits fuel cs = .ok (fields, rest) →
      ReadableFields fits fields)
    {cs rest : List Char} {j : Json} (h : readValue fits (fuel + 1) cs = .ok (j, rest)) :
    j.Readable fits := by
  unfold readValue at h
  split at h
  · -- a text has no parts
    obtain ⟨x, -, hx⟩ := exists_of_map_eq_ok h
    rw [← (Prod.mk.inj hx).1]
    exact trivial
  · split at h
    · rw [← (Prod.mk.inj (Except.ok.inj h)).1]
      exact trivial
    · obtain ⟨x, hread, hx⟩ := exists_of_map_eq_ok h
      rw [← (Prod.mk.inj hx).1]
      exact hitems hread
  · split at h
    · rw [← (Prod.mk.inj (Except.ok.inj h)).1]
      exact ⟨List.nodup_nil, trivial⟩
    · obtain ⟨x, hread, hx⟩ := exists_of_map_eq_ok h
      rw [← (Prod.mk.inj hx).1]
      -- the fields may have been read with a name twice; of these only one is kept
      obtain ⟨hnodup, hvalues⟩ := distinctFields_spec (readableFields_iff.mp (hfields hread))
      exact ⟨hnodup, readableFields_iff.mpr hvalues⟩
  · exact readable_of_readScalar h

/-- **What is read is readable.** -/
theorem readable_of_read (fuel : Nat) :
    (∀ {cs rest j}, readValue fits fuel cs = .ok (j, rest) → Readable fits j)
      ∧ (∀ {cs rest items}, readItems fits fuel cs = .ok (items, rest) → ReadableItems fits items)
      ∧ (∀ {cs rest fields}, readFields fits fuel cs = .ok (fields, rest) →
        ReadableFields fits fields) := by
  -- the three readers call each other with less fuel, so all of them are proved at once
  induction fuel with
  | zero => refine ⟨fun h => ?_, fun h => ?_, fun h => ?_⟩ <;> cases h
  | succ fuel ih =>
    obtain ⟨hvalues, hitems, hfields⟩ := ih
    refine ⟨readable_of_readValue_succ hitems hfields, fun h => ?_, fun h => ?_⟩
    · obtain ⟨j, r, mid, rfl, hvalue, rfl | ⟨cs', hrest⟩⟩ := readItems_inv h
      · exact ⟨hvalues hvalue, trivial⟩
      · exact ⟨hvalues hvalue, hitems hrest⟩
    · obtain ⟨k, v, r, cs', mid, rfl, hvalue, rfl | ⟨cs'', hrest⟩⟩ := readFields_inv h
      · exact ⟨hvalues hvalue, trivial⟩
      · exact ⟨hvalues hvalue, hfields hrest⟩

/-- What is read from characters is readable. -/
theorem readable_of_readChars {cs : List Char} {j : Json} (h : readChars fits cs = .ok j) :
    j.Readable fits := by
  simp only [readChars, bind, Except.bind] at h
  split at h
  · cases h
  · rename_i x hvalue
    split at h
    · rw [← Except.ok.inj h]
      exact (readable_of_read _).1 hvalue
    · cases h

/-- What is read from a text has no whole number that is too long. -/
theorem readable_of_ofChars {cs : List Char} {j : Json} (h : ofChars cs = .ok j) :
    j.Readable isShort :=
  readable_of_readChars (mapError_eq_ok_iff.mp h)

/-- What is read from a text is readable. -/
theorem readable_of_text {t : String} {j : Json} (h : Json.read t = .ok j) :
    j.Readable isShort := by
  unfold Json.read at h
  split at h
  · cases h
  · exact readable_of_ofChars h

/-- What is read from bytes is readable. -/
theorem readable_of_ofBytes {bs : List UInt8} {j : Json} (h : ofBytes bs = .ok j) :
    j.Readable isShort := by
  simp only [ofBytes] at h
  split at h
  · cases h
  · exact readable_of_ofChars (mapError_eq_ok_iff.mp h)

end IndexSearch.Json
