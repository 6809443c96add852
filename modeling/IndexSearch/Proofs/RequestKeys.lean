import IndexSearch.Proofs.JsonReading
import IndexSearch.Request.Basic

namespace IndexSearch

open Text Number

/-!
# What identifies a request

A request is sent as one text and hashed as another, with fields in another order, other blanks and
other escapes. Both texts are read back as the body, so either one identifies the body, and the body
identifies the request up to how its sort clauses are divided. The key of an answer adds the index,
which is found again before the digits of the fingerprint, whatever characters it has.

* `SearchRequest.Agree` — the requests that mean the same;
* `SearchRequest.agree_of_perm` — the fields of the body tell what a request means, in any order;
* `SearchRequest.CanBeWritten` — the requests that have these texts: no count is too long;
* `SearchRequest.key_identifies` — the two texts and the key identify the request alike.
-/

namespace Json

/-! ### Fields under their names -/

/-- The fields under their names do not depend on their order. -/
theorem field?_perm {α : Type} {fs gs : List (String × α)} (h : fs.Perm gs)
    (hnodup : (fs.map Prod.fst).Nodup) (name : String) : field? name fs = field? name gs := by
  induction h with
  | nil => rfl
  | cons f _ ih =>
    have hih := ih (List.nodup_cons.mp hnodup).2
    simp only [field?, List.find?_cons] at hih ⊢
    split
    · rfl
    · exact hih
  | swap f g r =>
    -- at most one of the two has the name, so it is found in either order
    have hne : g.1 ≠ f.1 := by
      intro heq
      exact (List.nodup_cons.mp hnodup).1 (heq ▸ List.mem_cons_self)
    simp only [field?, List.find?_cons]
    by_cases hg : g.1 = name
    · have hf : ¬ f.1 = name := fun hf => hne (hg.trans hf.symm)
      simp [hg, hf]
    · by_cases hf : f.1 = name <;> simp [hg, hf]
  | trans hfg _ ih₁ ih₂ =>
    exact (ih₁ hnodup).trans (ih₂ ((hfg.map Prod.fst).nodup_iff.mp hnodup))

/-- Fields that are sorted are the same fields. -/
theorem perm_sortFields {α : Type} (fields : List (String × α)) :
    (sortFields fields).Perm fields := List.mergeSort_perm fields _

end Json

namespace SearchRequest

/-! ### The body -/

/-- Requests that mean the same: they differ at most in how the text of the sort clauses is divided
    into clauses. -/
structure Agree (r₁ r₂ : SearchRequest) : Prop where
  /-- The same text is searched for. -/
  fullText : r₁.fullText = r₂.fullText
  /-- The filter is the same. -/
  filter : r₁.filter = r₂.filter
  /-- There are sort clauses in both or in none, and their joined text is the same. -/
  orderBy : (r₁.orderBy = [] ∧ r₂.orderBy = []) ∨
    (r₁.orderBy ≠ [] ∧ r₂.orderBy ≠ [] ∧ ",".intercalate r₁.orderBy = ",".intercalate r₂.orderBy)
  /-- The same number of results is passed over. -/
  skip : r₁.skip = r₂.skip
  /-- The same number of results is asked for. -/
  top : r₁.top = r₂.top
  /-- The facets are the same. -/
  facets : r₁.facets = r₂.facets
  /-- The results are counted in both or in none. -/
  includeTotalCount : r₁.includeTotalCount = r₂.includeTotalCount

/-- The text of the sort clauses, if there are any. -/
def sortText? (r : SearchRequest) : Option String :=
  if r.orderBy = [] then none else some (",".intercalate r.orderBy)

/-- The facets, if there are any. -/
def facets? (r : SearchRequest) : Option (List String) :=
  if r.facets = [] then none else some r.facets

/-- The texts of the sort clauses are the same if there are none in either request, or some in both
    that join to one text. -/
theorem sortText?_eq_iff {r₁ r₂ : SearchRequest} :
    r₁.sortText? = r₂.sortText? ↔ (r₁.orderBy = [] ∧ r₂.orderBy = []) ∨
      (r₁.orderBy ≠ [] ∧ r₂.orderBy ≠ []
        ∧ ",".intercalate r₁.orderBy = ",".intercalate r₂.orderBy) := by
  unfold sortText?
  by_cases h₁ : r₁.orderBy = []
  · by_cases h₂ : r₂.orderBy = [] <;> simp [h₁, h₂]
  · by_cases h₂ : r₂.orderBy = [] <;> simp [h₁, h₂]

/-- The facets are the same if they are the same in the body. -/
theorem facets?_eq_iff {r₁ r₂ : SearchRequest} :
    r₁.facets? = r₂.facets? ↔ r₁.facets = r₂.facets := by
  unfold facets?
  by_cases h₁ : r₁.facets = []
  · by_cases h₂ : r₂.facets = [] <;> simp [h₁, h₂, eq_comm]
  · by_cases h₂ : r₂.facets = [] <;> simp [h₁, h₂]

/-- Each field of the body is there exactly if there is something to say. -/
theorem bodyFields_eq (r : SearchRequest) :
    r.bodyFields = fieldOf "search" Json.text r.fullText
      ++ (fieldOf "filter" Json.text r.filter
      ++ (fieldOf "orderby" Json.text r.sortText?
      ++ (fieldOf "skip" (fun n : Nat => Json.int n) r.skip
      ++ (fieldOf "top" (fun n : Nat => Json.int n) r.top
      ++ (fieldOf "facets" (fun fs => Json.array (fs.map Json.text)) r.facets?
      ++ fieldOf "count" Json.bool (some r.includeTotalCount)))))) := by
  -- a list without elements is left out, as a part that is not there
  have hsort : (if r.orderBy.isEmpty then []
      else [("orderby", Json.text (",".intercalate r.orderBy))])
      = fieldOf "orderby" Json.text r.sortText? := by
    unfold sortText?
    by_cases h : r.orderBy = [] <;> simp [h, fieldOf]
  have hfacets : (if r.facets.isEmpty then []
      else [("facets", Json.array (r.facets.map Json.text))])
      = fieldOf "facets" (fun fs => Json.array (fs.map Json.text)) r.facets? := by
    unfold facets?
    by_cases h : r.facets = [] <;> simp [h, fieldOf]
  simp only [bodyFields, hsort, hfacets, List.append_assoc]
  rfl

/-- A field is found under its own name. -/
theorem field?_fieldOf {α : Type} (name field : String) (toJson : α → Json) (a : Option α) :
    Json.field? name (fieldOf field toJson a) = if field = name then a.map toJson else none := by
  cases a with
  | none => simp [fieldOf, Json.field?]
  | some a => by_cases h : field = name <;> simp [fieldOf, Json.field?, h]

/-- A field has its own name, if it is there. -/
theorem map_fst_fieldOf {α : Type} (field : String) (toJson : α → Json) (a : Option α) :
    ((fieldOf field toJson a).map Prod.fst).Sublist [field] := by
  cases a with
  | none => exact List.nil_sublist [field]
  | some a => exact List.Sublist.refl [field]

/-- No name occurs twice in a body. -/
theorem nodup_bodyFields (r : SearchRequest) : (r.bodyFields.map Prod.fst).Nodup := by
  have hnames : (r.bodyFields.map Prod.fst).Sublist
      ["search", "filter", "orderby", "skip", "top", "facets", "count"] := by
    rw [bodyFields_eq]
    simp only [List.map_append]
    exact (map_fst_fieldOf _ _ _).append ((map_fst_fieldOf _ _ _).append
      ((map_fst_fieldOf _ _ _).append ((map_fst_fieldOf _ _ _).append
      ((map_fst_fieldOf _ _ _).append ((map_fst_fieldOf _ _ _).append (map_fst_fieldOf _ _ _))))))
  exact hnames.nodup (by decide)

/-- The values of a body are flat: a text, a number, a truth value or a list of texts. -/
theorem flat_of_mem_bodyFields {r : SearchRequest} {f : String × Json} (h : f ∈ r.bodyFields) :
    (∃ s, f.2 = .text s) ∨ (∃ n, f.2 = .int n) ∨ (∃ b, f.2 = .bool b)
      ∨ ∃ fs : List String, f.2 = .array (fs.map .text) := by
  -- a field that is there was made of a value
  have hfield : ∀ {α : Type} {name : String} {toJson : α → Json} {a : Option α},
      f ∈ fieldOf name toJson a → ∃ a, f.2 = toJson a := by
    intro α name toJson a hf
    cases a with
    | none => exact absurd hf List.not_mem_nil
    | some a => exact ⟨a, by rw [List.mem_singleton.mp hf]⟩
  rw [bodyFields_eq] at h
  simp only [List.mem_append] at h
  rcases h with h | h | h | h | h | h | h
  · exact .inl (hfield h)
  · exact .inl (hfield h)
  · exact .inl (hfield h)
  · obtain ⟨n, hn⟩ := hfield h
    exact .inr (.inl ⟨n, hn⟩)
  · obtain ⟨n, hn⟩ := hfield h
    exact .inr (.inl ⟨n, hn⟩)
  · exact .inr (.inr (.inr (hfield h)))
  · exact .inr (.inr (.inl (hfield h)))

/-- **The body tells what the request means**, whatever the order of its fields. -/
theorem agree_of_perm {r₁ r₂ : SearchRequest} (h : r₁.bodyFields.Perm r₂.bodyFields) :
    Agree r₁ r₂ := by
  -- what stands under a name does not depend on the order, and it is absent or of one kind
  have hfield := Json.field?_perm h (nodup_bodyFields r₁)
  have htext : ∀ a b : Option String, a.map Json.text = b.map Json.text → a = b := by
    intro a b hab
    exact Option.map_injective (fun _ _ => Json.text.inj) hab
  have hnumber : ∀ a b : Option Nat,
      a.map (fun n : Nat => Json.int n) = b.map (fun n : Nat => Json.int n) → a = b := by
    intro a b hab
    exact Option.map_injective (fun _ _ h => Int.ofNat.inj (Json.int.inj h)) hab
  have htexts : ∀ a b : Option (List String),
      a.map (fun fs => Json.array (fs.map Json.text))
        = b.map (fun fs => Json.array (fs.map Json.text)) → a = b := by
    intro a b hab
    refine Option.map_injective (fun fs gs h => ?_) hab
    exact List.map_injective_iff.mpr (fun _ _ => Json.text.inj) (Json.array.inj h)
  simp only [bodyFields_eq, Json.field?_append, field?_fieldOf] at hfield
  have hsearch := hfield "search"
  have hfilter := hfield "filter"
  have horder := hfield "orderby"
  have hskip := hfield "skip"
  have htop := hfield "top"
  have hfacets := hfield "facets"
  have hcount := hfield "count"
  simp only [if_pos, String.reduceEq, Option.or_none, Option.none_or, if_false]
    at hsearch hfilter horder hskip htop hfacets hcount
  exact {
    fullText := htext _ _ hsearch
    filter := htext _ _ hfilter
    orderBy := sortText?_eq_iff.mp (htext _ _ horder)
    skip := hnumber _ _ hskip
    top := hnumber _ _ htop
    facets := facets?_eq_iff.mp (htexts _ _ hfacets)
    includeTotalCount := Json.bool.inj (Option.some.inj hcount) }

/-- Requests that mean the same have the same body. -/
theorem body_eq_of_agree {r₁ r₂ : SearchRequest} (h : Agree r₁ r₂) : r₁.body = r₂.body := by
  have hsort := sortText?_eq_iff.mpr h.orderBy
  have hfacets := facets?_eq_iff.mpr h.facets
  rw [body, body, bodyFields_eq, bodyFields_eq, h.fullText, h.filter, hsort, h.skip, h.top, hfacets,
    h.includeTotalCount]

/-! ### The two texts -/

/-- A flat value has no fields to sort, and it could be read if its numbers are not too long. -/
theorem sorted_of_flat {j : Json} (h : (∃ s, j = .text s) ∨ (∃ n, j = .int n) ∨ (∃ b, j = .bool b)
    ∨ ∃ fs : List String, j = .array (fs.map .text)) :
    j.sorted = j ∧ j.Readable fun _ => true := by
  rcases h with ⟨s, rfl⟩ | ⟨n, rfl⟩ | ⟨b, rfl⟩ | ⟨fs, rfl⟩
  · exact ⟨rfl, trivial⟩
  · exact ⟨rfl, rfl⟩
  · exact ⟨rfl, trivial⟩
  · have hitems : Json.sortedItems (fs.map .text) = fs.map .text := by
      induction fs with
      | nil => rfl
      | cons f r ih => rw [List.map_cons, Json.sortedItems, ih]; rfl
    refine ⟨congrArg Json.array hitems, Json.readableItems_iff.mpr fun j hj => ?_⟩
    obtain ⟨f, -, rfl⟩ := List.mem_map.mp hj
    exact trivial

/-- Fields whose values have nothing to sort are left as they are. -/
theorem sortedFields_of_flat {fields : List (String × Json)}
    (h : ∀ f ∈ fields, f.2.sorted = f.2) : Json.sortedFields fields = fields := by
  induction fields with
  | nil => rfl
  | cons f r ih =>
    rw [Json.sortedFields, h f List.mem_cons_self, ih fun g hg => h g (List.mem_cons_of_mem f hg)]

/-- Of a body only the fields themselves are sorted. -/
theorem sorted_body (r : SearchRequest) :
    r.body.sorted = .object (Json.sortFields r.bodyFields) := by
  have hfields : Json.sortedFields r.bodyFields = r.bodyFields :=
    sortedFields_of_flat fun f hf => (sorted_of_flat (flat_of_mem_bodyFields hf)).1
  rw [body, Json.sorted, hfields]

/-- The body could be read back, in whatever order its fields are, if its numbers are not too
    long. -/
theorem readable_of_perm {r : SearchRequest} {fields : List (String × Json)}
    (h : fields.Perm r.bodyFields) : (Json.object fields).Readable fun _ => true := by
  refine ⟨(h.map Prod.fst).nodup_iff.mpr (nodup_bodyFields r),
    Json.readableFields_iff.mpr fun f hf => ?_⟩
  exact (sorted_of_flat (flat_of_mem_bodyFields (h.mem_iff.mp hf))).2

/-- **The text that is sent identifies the request.** -/
theorem sentText_eq_iff {r₁ r₂ : SearchRequest} : r₁.sentText = r₂.sentText ↔ Agree r₁ r₂ := by
  constructor
  · intro h
    have hbody := Json.write_injective Json.separates_compact
      (readable_of_perm (List.Perm.refl _)) (readable_of_perm (List.Perm.refl _)) h
    exact agree_of_perm (Json.object.inj hbody ▸ List.Perm.refl _)
  · intro h
    rw [sentText, sentText, body_eq_of_agree h]

/-- **The text that is hashed identifies the request.** -/
theorem hashedText_eq_iff {r₁ r₂ : SearchRequest} :
    r₁.hashedText = r₂.hashedText ↔ Agree r₁ r₂ := by
  constructor
  · intro h
    have hsorted₁ := Json.perm_sortFields r₁.bodyFields
    have hsorted₂ := Json.perm_sortFields r₂.bodyFields
    -- the order of the fields is lost, but it is not needed to tell what the request means
    rw [hashedText, hashedText, sorted_body, sorted_body] at h
    have hbody := Json.write_injective Json.separates_spaced (readable_of_perm hsorted₁)
      (readable_of_perm hsorted₂) h
    rw [Json.object.inj hbody] at hsorted₁
    exact agree_of_perm (hsorted₁.symm.trans hsorted₂)
  · intro h
    rw [hashedText, hashedText, body_eq_of_agree h]

/-- The body identifies the request as its texts do. -/
theorem body_eq_iff {r₁ r₂ : SearchRequest} : r₁.body = r₂.body ↔ Agree r₁ r₂ :=
  ⟨fun h => agree_of_perm (Json.object.inj h ▸ List.Perm.refl _), body_eq_of_agree⟩

instance (r₁ r₂ : SearchRequest) : Decidable (r₁.body = r₂.body) :=
  decidable_of_iff (r₁.sentText = r₂.sentText) (sentText_eq_iff.trans body_eq_iff.symm)

/-! ### The key -/

/-- A number is written with as many bytes as asked for. -/
theorem length_bigEndian (count n : Nat) : (Digest.bigEndian count n).length = count := by
  rw [Digest.bigEndian, List.length_map, List.length_range]

/-- A digest has 32 bytes. -/
theorem length_sha256 (bs : List UInt8) : (Digest.sha256 bs).length = 32 := by
  have hwords : ∀ ws : List UInt32,
      (ws.flatMap fun w => Digest.bigEndian 4 w.toNat).length = ws.length * 4 := by
    intro ws
    simp only [List.length_flatMap, length_bigEndian, List.map_const', List.sum_replicate_nat]
  exact hwords _

/-- All fingerprints have the same length. -/
theorem length_fingerprint (s : String) : (fingerprint s).toList.length = 16 := by
  have hbyte : ∀ b : UInt8, (hexDigits 2 b.toNat).length = 2 := by
    intro b
    have hb : b.toNat < 256 := b.toNat_lt
    rw [Json.hexDigits_succ (by decide), Json.hexDigits_one (by omega)]
    rfl
  have hbytes : ((Digest.sha256 (Utf8.encode s.toList)).take 8).length = 8 := by
    rw [List.length_take, length_sha256]
    rfl
  rw [fingerprint, String.toList_ofList, List.length_flatMap]
  simp only [hbyte, List.map_const', List.sum_replicate_nat, hbytes]

/-- The digits of a fingerprint are told apart from the colons of a key. -/
theorem colon_notMem_fingerprint (s : String) : ':' ∉ (fingerprint s).toList := by
  have hdigit : ∀ n < 16, ':' ≠ Nat.digitChar n := by decide
  rw [fingerprint, String.toList_ofList, List.mem_flatMap]
  rintro ⟨b, -, hcolon⟩
  have hb : b.toNat < 256 := b.toNat_lt
  rw [Json.hexDigits_succ (by decide), Json.hexDigits_one (by omega), List.mem_append,
    List.mem_singleton, List.mem_singleton] at hcolon
  rcases hcolon with hcolon | hcolon
  · exact hdigit _ (by omega) hcolon
  · exact hdigit _ (by omega) hcolon

/-- The index and the fingerprint are found again in a key: the fingerprint has a known length, so
    the index may have any characters. -/
theorem key_eq_iff_fingerprint {i₁ i₂ : String} {r₁ r₂ : SearchRequest} :
    key i₁ r₁ = key i₂ r₂ ↔
      i₁ = i₂ ∧ fingerprint r₁.hashedText = fingerprint r₂.hashedText := by
  have hchars : ∀ i r, (key i r).toList
      = (keyStem i).toList ++ (fingerprint r.hashedText).toList := fun i r => String.toList_append
  have hlength : ∀ s t, (fingerprint s).toList.length = (fingerprint t).toList.length :=
    fun s t => (length_fingerprint s).trans (length_fingerprint t).symm
  constructor
  · intro h
    have hlists := (hchars i₁ r₁).symm.trans ((congrArg String.toList h).trans (hchars i₂ r₂))
    -- from the end, not from the colon, since the index may have colons too
    obtain ⟨hstem, hprint⟩ := List.append_inj' hlists (hlength _ _)
    have hindex : "azquery:search:" ++ i₁ ++ ":" = "azquery:search:" ++ i₂ ++ ":" :=
      String.toList_injective hstem
    have hfront := (String.append_left_inj ":").mp hindex
    exact ⟨(String.append_right_inj _).mp hfront, String.toList_injective hprint⟩
  · rintro ⟨rfl, h⟩
    exact congrArg (keyStem i₁ ++ ·) h

/-! ### Requests that can be written -/

/-- Whether a request has texts: neither of its counts is too long. -/
def CanBeWritten (r : SearchRequest) : Prop :=
  ∀ n : Nat, r.skip = some n ∨ r.top = some n → isShort n = true

/-- A request without counts can be written. -/
theorem canBeWritten_of_none {r : SearchRequest} (hskip : r.skip = none) (htop : r.top = none) :
    r.CanBeWritten := by
  rintro n (h | h)
  · cases hskip.symm.trans h
  · cases htop.symm.trans h

/-- A request has no faults exactly if it can be written. -/
theorem faults_eq_nil_iff (r : SearchRequest) : r.faults = [] ↔ r.CanBeWritten := by
  have hcount : ∀ n : Nat, TextFault.ofInt n = [] ↔ isShort n = true := by
    intro n
    rw [TextFault.ofInt]
    cases isShort (n : Int) <;> simp
  simp only [faults, List.flatMap_eq_nil_iff, List.mem_append, Option.mem_toList, hcount,
    CanBeWritten]

/-- Whatever is made of a request that can be written, it is made of it. -/
theorem check_faults_of_canBeWritten {r : SearchRequest} (h : r.CanBeWritten) :
    TextFault.check r.faults = .ok () := by
  rw [(faults_eq_nil_iff r).mpr h]
  rfl

/-- A request that cannot be written is one that is too long. -/
theorem check_faults_of_not_canBeWritten {r : SearchRequest} (h : ¬ r.CanBeWritten) :
    TextFault.check r.faults = .error .tooLong := by
  have hfaults : ∀ f ∈ r.faults, f = .tooLong := by
    intro f hf
    obtain ⟨n, -, hf⟩ := List.mem_flatMap.mp hf
    unfold TextFault.ofInt at hf
    split at hf
    · exact absurd hf List.not_mem_nil
    · exact List.mem_singleton.mp hf
  cases hr : r.faults with
  | nil => exact absurd ((faults_eq_nil_iff r).mp hr) h
  | cons f _ =>
    rw [hfaults f (hr ▸ List.mem_cons_self)]
    rfl

/-- A request that can be written has both texts and a key. -/
theorem texts_of_canBeWritten {r : SearchRequest} (h : r.CanBeWritten) (index : String) :
    r.hashedText? = .ok r.hashedText ∧ r.sentText? = .ok r.sentText
      ∧ key? index r = .ok (key index r) := by
  have hhashed : r.hashedText? = .ok r.hashedText := by
    rw [hashedText?, check_faults_of_canBeWritten h]
    rfl
  refine ⟨hhashed, ?_, ?_⟩
  · rw [sentText?, check_faults_of_canBeWritten h]
    rfl
  · rw [key?, hhashed]
    rfl

/-- A request that cannot be written has none of them. -/
theorem texts_of_not_canBeWritten {r : SearchRequest} (h : ¬ r.CanBeWritten) (index : String) :
    r.hashedText? = .error .tooLong ∧ r.sentText? = .error .tooLong
      ∧ key? index r = .error .tooLong := by
  have hhashed : r.hashedText? = .error .tooLong := by
    rw [hashedText?, check_faults_of_not_canBeWritten h]
    rfl
  refine ⟨hhashed, ?_, ?_⟩
  · rw [sentText?, check_faults_of_not_canBeWritten h]
    rfl
  · rw [key?, hhashed]
    rfl

/-- **Keys identify requests as the texts do.** A request of which no count is too long has a hashed
    text, a sent text and a key; any other has none of them. Unless the fingerprints of two hashed
    texts collide, the hashed texts are equal exactly if the sent texts are, which is if the requests
    mean the same, and the keys are equal exactly if the indexes are equal as well. -/
theorem key_identifies (i₁ i₂ : String) (r₁ r₂ : SearchRequest)
    (hcollision : ∀ s₁ s₂, r₁.hashedText? = .ok s₁ → r₂.hashedText? = .ok s₂ →
      fingerprint s₁ = fingerprint s₂ → s₁ = s₂) :
    (r₁.CanBeWritten → r₂.CanBeWritten →
      ∃ h₁ h₂ s₁ s₂ k₁ k₂, r₁.hashedText? = .ok h₁ ∧ r₂.hashedText? = .ok h₂
        ∧ r₁.sentText? = .ok s₁ ∧ r₂.sentText? = .ok s₂
        ∧ key? i₁ r₁ = .ok k₁ ∧ key? i₂ r₂ = .ok k₂
        ∧ (h₁ = h₂ ↔ s₁ = s₂) ∧ (s₁ = s₂ ↔ Agree r₁ r₂) ∧ (k₁ = k₂ ↔ i₁ = i₂ ∧ Agree r₁ r₂))
    ∧ (¬ r₁.CanBeWritten → r₁.hashedText? = .error .tooLong ∧ r₁.sentText? = .error .tooLong
        ∧ key? i₁ r₁ = .error .tooLong) := by
  refine ⟨fun hw₁ hw₂ => ?_, fun h => texts_of_not_canBeWritten h i₁⟩
  obtain ⟨hh₁, hs₁, hk₁⟩ := texts_of_canBeWritten hw₁ i₁
  obtain ⟨hh₂, hs₂, hk₂⟩ := texts_of_canBeWritten hw₂ i₂
  refine ⟨_, _, _, _, _, _, hh₁, hh₂, hs₁, hs₂, hk₁, hk₂,
    hashedText_eq_iff.trans sentText_eq_iff.symm, sentText_eq_iff, ?_⟩
  -- that texts hash alike only when they are equal is used here, and nowhere else
  rw [key_eq_iff_fingerprint]
  constructor
  · rintro ⟨hindex, hprint⟩
    exact ⟨hindex, hashedText_eq_iff.mp (hcollision _ _ hh₁ hh₂ hprint)⟩
  · rintro ⟨hindex, hagree⟩
    exact ⟨hindex, congrArg fingerprint (hashedText_eq_iff.mpr hagree)⟩

/-- Two requests with different fingerprints: the keys of their answers on one index are different,
    since one asks for all results to be counted. -/
theorem key_identifies_counted :
    let r₁ : SearchRequest := ⟨none, none, [], none, none, [], false⟩
    let r₂ : SearchRequest := ⟨none, none, [], none, none, [], true⟩
    fingerprint r₁.hashedText ≠ fingerprint r₂.hashedText ∧ key? "a:b" r₁ ≠ key? "a:b" r₂ := by
  intro r₁ r₂
  -- both texts are written out, since their hashes are computed
  have h₁ : r₁.hashedText = "\x7b\"count\": false\x7d" := by
    simp [r₁, hashedText, sorted_body, bodyFields, fieldOf, Json.sortFields, Json.write, Json.chars,
      Json.charsOfFields, Json.quotedText, Json.escaped, Json.spaced]
  have h₂ : r₂.hashedText = "\x7b\"count\": true\x7d" := by
    simp [r₂, hashedText, sorted_body, bodyFields, fieldOf, Json.sortFields, Json.write, Json.chars,
      Json.charsOfFields, Json.quotedText, Json.escaped, Json.spaced]
  have hprints : fingerprint r₁.hashedText ≠ fingerprint r₂.hashedText := by
    rw [h₁, h₂]
    decide +kernel
  have hw₁ : r₁.CanBeWritten := canBeWritten_of_none rfl rfl
  have hw₂ : r₂.CanBeWritten := canBeWritten_of_none rfl rfl
  -- the hypothesis holds of this pair, whose hashes are different
  have hcollision : ∀ s₁ s₂, r₁.hashedText? = .ok s₁ → r₂.hashedText? = .ok s₂ →
      fingerprint s₁ = fingerprint s₂ → s₁ = s₂ := by
    intro s₁ s₂ hs₁ hs₂ hprint
    rw [(texts_of_canBeWritten hw₁ "a:b").1] at hs₁
    rw [(texts_of_canBeWritten hw₂ "a:b").1] at hs₂
    cases hs₁
    cases hs₂
    exact absurd hprint hprints
  obtain ⟨_, _, _, _, _, _, -, -, -, -, hk₁, hk₂, -, -, hkeys⟩ :=
    (key_identifies "a:b" "a:b" r₁ r₂ hcollision).1 hw₁ hw₂
  refine ⟨hprints, fun hkey => ?_⟩
  rw [hk₁, hk₂] at hkey
  exact Bool.noConfusion (hkeys.mp (Except.ok.inj hkey)).2.includeTotalCount

/-- A request to pass over a number of results that has 4301 digits means the same as itself, but it
    has neither text and it has no key. -/
theorem key_identifies_of_long :
    let r : SearchRequest := ⟨none, none, [], some (10 ^ 4300), none, [], false⟩
    Agree r r ∧ (∀ h, r.hashedText? ≠ .ok h) ∧ (∀ s, r.sentText? ≠ .ok s)
      ∧ ∀ k, key? "idx" r ≠ .ok k := by
  intro r
  have hlong : ¬ r.CanBeWritten := by
    intro h
    have hshort : isShort ((10 ^ 4300 : Nat) : Int) = true := h _ (.inl rfl)
    exact absurd hshort (by decide +kernel)
  obtain ⟨hhashed, hsent, hkey⟩ := texts_of_not_canBeWritten hlong "idx"
  refine ⟨body_eq_iff.mp rfl, fun h => ?_, fun s => ?_, fun k => ?_⟩
  · rw [hhashed]
    nofun
  · rw [hsent]
    nofun
  · rw [hkey]
    nofun

end SearchRequest

end IndexSearch
