import IndexSearch.Proofs.BuiltRequests
import IndexSearch.Proofs.DistanceTexts
import IndexSearch.Proofs.FilterReading
import IndexSearch.Proofs.RequestKeys

namespace IndexSearch

open Number

/-!
# Sort clauses are split again

The clauses of a request are joined with commas, and the clause for a distance holds a comma itself.
That one is followed by a blank, and no clause begins with a blank: so the commas between clauses
are those that no blank follows, and the joined text is split into the clauses it was made of.

* `splitClauses` — splits a text at the commas between clauses;
* `IsClause` — texts that are not split, `splitClauses_intercalate` — their joined text is split
  into them;
* `SortKey.exists_sortClauses` — the clauses of sort keys on named fields are such texts;
* `SearchRequest.orderby_determines` — requests have the same joined text exactly if they have the
  same clauses.
-/

/-! ### Splitting at commas -/

/-- Splits characters at the commas that are not followed by a blank. -/
def splitAtCommas : List Char → List (List Char)
  | [] => [[]]
  | c :: r =>
    if c = ',' ∧ r.head? ≠ some ' ' then [] :: splitAtCommas r
    else (splitAtCommas r).modifyHead (c :: ·)

/-- Splits the joined text of clauses. -/
def splitClauses (s : String) : List String :=
  if s.isEmpty then [] else (splitAtCommas s.toList).map String.ofList

/-- Whether every comma in a text is followed by a blank. -/
def Unbroken : List Char → Prop
  | [] => True
  | c :: r => (c = ',' → r.head? = some ' ') ∧ Unbroken r

/-- A text without commas is not broken. -/
theorem unbroken_of_notMem {cs : List Char} (h : ',' ∉ cs) : Unbroken cs := by
  induction cs with
  | nil => trivial
  | cons c r ih =>
    rw [List.mem_cons, not_or] at h
    exact ⟨fun hc => absurd hc.symm h.1, ih h.2⟩

/-- Two texts that are not broken are not broken together. -/
theorem Unbroken.append {a b : List Char} (ha : Unbroken a) (hb : Unbroken b) :
    Unbroken (a ++ b) := by
  induction a with
  | nil => exact hb
  | cons c r ih =>
    refine ⟨fun hc => ?_, ih ha.2⟩
    show (r ++ b).head? = some ' '
    rw [List.head?_append, ha.1 hc]
    rfl

/-- A text without commas between clauses is not split. -/
theorem splitAtCommas_of_unbroken {cs : List Char} (h : Unbroken cs) : splitAtCommas cs = [cs] := by
  induction cs with
  | nil => rfl
  | cons c r ih =>
    rw [splitAtCommas, if_neg fun hc => hc.2 (h.1 hc.1), ih h.2]
    rfl

/-- A text is split off the front if a comma follows it, and then no blank. -/
theorem splitAtCommas_append {cs rest : List Char} (h : Unbroken cs)
    (hrest : rest.head? ≠ some ' ') :
    splitAtCommas (cs ++ ',' :: rest) = cs :: splitAtCommas rest := by
  induction cs with
  | nil => rw [List.nil_append, splitAtCommas, if_pos ⟨rfl, hrest⟩]
  | cons c r ih =>
    -- a comma inside keeps its blank, whatever stands behind the text
    have hin : ¬ (c = ',' ∧ (r ++ ',' :: rest).head? ≠ some ' ') := by
      rintro ⟨hc, hnext⟩
      apply hnext
      rw [List.head?_append, h.1 hc]
      rfl
    rw [List.cons_append, splitAtCommas, if_neg hin, ih h.2]
    rfl

/-- A clause: it is not empty, it does not begin with a blank, and a blank follows each of its
    commas. -/
structure IsClause (s : String) : Prop where
  /-- A clause does not begin with a blank, but it begins with a character. -/
  head : ∃ c r, s.toList = c :: r ∧ c ≠ ' '
  /-- No comma of a clause looks like one between clauses. -/
  unbroken : Unbroken s.toList

/-- Joined clauses begin as the first one does. -/
theorem exists_intercalate_eq_cons {c : String} (hc : IsClause c) (cs : List String) :
    ∃ a t, (",".intercalate (c :: cs)).toList = a :: t ∧ a ≠ ' ' := by
  obtain ⟨a, t, hc, ha⟩ := hc.head
  cases cs with
  | nil => exact ⟨a, t, by rw [String.intercalate_singleton, hc], ha⟩
  | cons d r =>
    rw [String.intercalate_cons_cons, String.toList_append, String.toList_append, hc]
    exact ⟨a, _, rfl, ha⟩

/-- Clauses joined by commas are split into these clauses. -/
theorem splitAtCommas_intercalate {c : String} {cs : List String} (h : ∀ d ∈ c :: cs, IsClause d) :
    splitAtCommas (",".intercalate (c :: cs)).toList = (c :: cs).map String.toList := by
  have hc := h c List.mem_cons_self
  induction cs generalizing c with
  | nil =>
    rw [String.intercalate_singleton]
    exact splitAtCommas_of_unbroken hc.unbroken
  | cons d r ih =>
    have hrest := fun e he => h e (List.mem_cons_of_mem c he)
    have hd := hrest d List.mem_cons_self
    -- no blank follows the comma, since the next clause does not begin with one
    have hhead : (",".intercalate (d :: r)).toList.head? ≠ some ' ' := by
      obtain ⟨a, t, htext, ha⟩ := exists_intercalate_eq_cons hd r
      rw [htext, List.head?_cons]
      exact fun hblank => ha (Option.some.inj hblank)
    rw [String.intercalate_cons_cons, String.toList_append, String.toList_append,
      List.append_assoc]
    show splitAtCommas (c.toList ++ ',' :: (",".intercalate (d :: r)).toList) = _
    rw [splitAtCommas_append hc.unbroken hhead, ih hrest hd]
    rfl

/-- **Joined clauses are split again.** -/
theorem splitClauses_intercalate {cs : List String} (h : ∀ c ∈ cs, IsClause c) :
    splitClauses (",".intercalate cs) = cs := by
  cases cs with
  | nil => rfl
  | cons c r =>
    have hne : (",".intercalate (c :: r)).isEmpty ≠ true := by
      obtain ⟨a, t, htext, -⟩ := exists_intercalate_eq_cons (h c List.mem_cons_self) r
      intro hempty
      rw [String.isEmpty_iff.mp hempty] at htext
      cases htext
    rw [splitClauses, if_neg hne, splitAtCommas_intercalate h, List.map_map]
    show (c :: r).map (fun d => String.ofList d.toList) = c :: r
    simp only [String.ofList_toList, List.map_id']

/-! ### The clauses of sort keys -/

/-- Whether a sort key is a named field, or the distance of one from a point that is given by
    doubles. -/
def SortKey.readable : SortKey → Bool
  | byField field _ => Filter.isFieldName field
  | byDistance longitude latitude _ field =>
    Filter.isFieldName field && Filter.isDouble longitude && Filter.isDouble latitude

/-- A number with six decimals has no comma. -/
theorem comma_notMem_of_sixPlaces {s : String} (h : SixPlaces s) : ',' ∉ s.toList := by
  obtain ⟨sign, whole, places, hs, hsign, -, hwhole, -, hplaces⟩ := h
  rw [hs]
  intro hmem
  rcases List.mem_append.mp hmem with hmem | hmem
  · rcases List.mem_append.mp hmem with hmem | hmem
    · rcases hsign with rfl | rfl
      · cases hmem
      · revert hmem
        decide
    · exact absurd (hwhole _ hmem) (by decide)
  · rcases List.mem_cons.mp hmem with hpoint | hmem
    · exact absurd hpoint (by decide)
    · exact absurd (hplaces _ hmem) (by decide)

/-- No number in the text of a distance holds a comma, not even a special double. -/
theorem comma_notMem_of_isWrittenAs {v : Value} {s : String} (h : v.IsWrittenAs s) :
    ',' ∉ s.toList := by
  by_cases hspecial : v.isSpecial = false
  · exact comma_notMem_of_sixPlaces (h.sixPlaces_iff.mpr hspecial)
  · have hnone : ∀ t ∈ specialTexts, ',' ∉ t.toList := by decide
    exact hnone s (h.special (Bool.eq_true_of_not_eq_false hspecial))

/-- A name has no comma. -/
theorem comma_notMem_of_isName {s : String} (h : isName s = true) : ',' ∉ s.toList :=
  fun hmem => (ne_of_isName h _ hmem).2.2 rfl

/-- A name begins with a character that is no blank. -/
theorem exists_eq_cons_of_isName {s : String} (h : isName s = true) :
    ∃ c r, s.toList = c :: r ∧ c ≠ ' ' := by
  cases hs : s.toList with
  | nil =>
    rw [String.toList_eq_nil_iff.mp hs] at h
    cases h
  | cons c r => exact ⟨c, r, rfl, (ne_of_isName h c (by rw [hs]; exact List.mem_cons_self)).1⟩

/-- A direction has no comma. -/
theorem comma_notMem_word (d : Direction) : ',' ∉ d.word.toList := by
  cases d <;> decide

namespace SortKey

/-- The clause for a named field is not split. -/
theorem isClause_byField {name : String} (hname : isName name = true) (d : Direction) :
    IsClause (name ++ " " ++ d.word) := by
  constructor
  · obtain ⟨c, r, hc, hne⟩ := exists_eq_cons_of_isName hname
    simp only [String.toList_append, hc]
    exact ⟨c, _, rfl, hne⟩
  · simp only [String.toList_append]
    apply Unbroken.append
    · apply Unbroken.append
      · exact unbroken_of_notMem (comma_notMem_of_isName hname)
      · exact unbroken_of_notMem (by decide)
    · exact unbroken_of_notMem (comma_notMem_word d)

/-- The clause for a distance is not split: a blank follows the comma between the arguments of the
    call, and there is no other one. -/
theorem isClause_byDistance {name x y : String} (hname : isName name = true)
    (hx : ',' ∉ x.toList) (hy : ',' ∉ y.toList) (d : Direction) :
    IsClause ("geo.distance(" ++ name ++ ", geography'POINT(" ++ x ++ " " ++ y ++ ")')" ++ " "
      ++ d.word) := by
  constructor
  · simp only [String.toList_append]
    exact ⟨'g', _, rfl, by decide⟩
  · have hcomma : Unbroken ", geography'POINT(".toList :=
      ⟨fun _ => rfl, unbroken_of_notMem (by decide)⟩
    have hplain (s : String) (h : ',' ∉ s.toList) : Unbroken s.toList := unbroken_of_notMem h
    simp only [String.toList_append, List.append_assoc]
    -- the pieces of the clause in a row; only the one after the name has a comma
    exact (hplain _ (by decide)).append <|
      (hplain name (comma_notMem_of_isName hname)).append <| hcomma.append <|
      (hplain x hx).append <| (hplain _ (by decide)).append <| (hplain y hy).append <|
      (hplain _ (by decide)).append <| (hplain _ (by decide)).append
      (hplain _ (comma_notMem_word d))

/-- A sort key has a clause among the options if its field has a text and it has a clause. -/
theorem clause_key_eq_ok_iff {k : SortKey} {c : String} :
    (SortOperand.key k).clause = .ok c ↔ k.fieldFaults = [] ∧ k.clause = .ok c :=
  check_bind_eq_ok_iff

/-- A sort key on a named field has a clause, and it is one that is not split. -/
theorem exists_clause {k : SortKey} (hk : k.readable = true) :
    ∃ c, (SortOperand.key k).clause = .ok c ∧ IsClause c := by
  cases k with
  | byField field direction =>
    exact ⟨_, clause_key_eq_ok_iff.mpr ⟨Filter.plainFaults_of_isFieldName hk, rfl⟩,
      isClause_byField (Filter.plain_eq_of_isFieldName hk) direction⟩
  | byDistance longitude latitude direction field =>
    simp only [readable, Bool.and_eq_true] at hk
    obtain ⟨⟨hname, hlongitude⟩, hlatitude⟩ := hk
    -- a number is written without a comma
    have hnumber {v : Value} (hv : Filter.isDouble v = true) :
        ∃ s, fixed v = .ok s ∧ ',' ∉ s.toList := by
      cases v with
      | real x => exact ⟨_, rfl, comma_notMem_of_isWrittenAs (isWrittenAs_fixedText x)⟩
      | _ => cases hv
    obtain ⟨x, hx, hxcomma⟩ := hnumber hlongitude
    obtain ⟨y, hy, hycomma⟩ := hnumber hlatitude
    have hcall := distanceCall_eq_ok_iff.mpr ⟨x, y, hx, hy, @rfl _ ("geo.distance(" ++ field.plain
      ++ ", geography'POINT(" ++ x ++ " " ++ y ++ ")')")⟩
    have hfaults := Filter.plainFaults_of_isFieldName hname
    exact ⟨_, clause_key_eq_ok_iff.mpr ⟨hfaults, bind_eq_ok_iff.mpr ⟨_, hcall, rfl⟩⟩,
      isClause_byDistance (Filter.plain_eq_of_isFieldName hname) hxcomma hycomma direction⟩

/-- Sort keys on named fields have clauses that are not split. -/
theorem exists_sortClauses {ks : List SortKey} (hks : ∀ k ∈ ks, k.readable = true) :
    ∃ cs, sortClauses (ks.map .key) = .ok cs ∧ ∀ c ∈ cs, IsClause c := by
  induction ks with
  | nil => exact ⟨[], rfl, fun c hc => absurd hc List.not_mem_nil⟩
  | cons k r ih =>
    obtain ⟨c, hc, hclause⟩ := exists_clause (hks k List.mem_cons_self)
    obtain ⟨cs, hcs, hclauses⟩ := ih fun l hl => hks l (List.mem_cons_of_mem k hl)
    refine ⟨c :: cs, sortClauses_eq_ok_iff.mpr ?_, ?_⟩
    · exact .cons hc (sortClauses_eq_ok_iff.mp hcs)
    · exact List.forall_mem_cons.mpr ⟨hclause, hclauses⟩

end SortKey

/-! ### Requests that are sorted -/

namespace SearchRequest

/-- Whether a request is built from a draft whose last accepted sort keys are the given ones. -/
def IsSortedBy (ks : List SortKey) (r : SearchRequest) : Prop :=
  ∃ calls, lastAccepted .sort calls = some (.sort (ks.map .key))
    ∧ (Draft.ofCalls calls).build = .ok r

/-- The joined text of the clauses as it stands in the body, if it does. -/
def orderby? (r : SearchRequest) : Option Json := Json.field? "orderby" r.bodyFields

/-- What stands under `orderby` is the text of the sort clauses. -/
theorem orderby?_eq (r : SearchRequest) : r.orderby? = r.sortText?.map Json.text := by
  rw [orderby?, bodyFields_eq]
  simp only [Json.field?_append, field?_fieldOf, String.reduceEq, if_true, if_false,
    Option.or_none, Option.none_or]

/-- A request has the clauses of its sort keys. -/
theorem IsSortedBy.orderBy_eq {ks : List SortKey} {r : SearchRequest} {cs : List String}
    (h : r.IsSortedBy ks) (hcs : sortClauses (ks.map .key) = .ok cs) : r.orderBy = cs := by
  obtain ⟨calls, hlast, hbuild⟩ := h
  have hclauses := (isBuiltFrom_of_build hbuild).sorted _ hlast
  exact Except.ok.inj (hclauses.symm.trans hcs)

/-- Clauses that are not split are read off their joined text. -/
theorem sortText?_elim {r : SearchRequest} (h : ∀ c ∈ r.orderBy, IsClause c) :
    r.sortText?.elim [] splitClauses = r.orderBy := by
  unfold sortText?
  split
  · rename_i hnil
    rw [hnil]
    rfl
  · exact splitClauses_intercalate h

/-- Clauses that are not split are the same if what stands in the body is the same. -/
theorem orderby?_eq_iff {r s : SearchRequest} (hr : ∀ c ∈ r.orderBy, IsClause c)
    (hs : ∀ c ∈ s.orderBy, IsClause c) : r.orderby? = s.orderby? ↔ r.orderBy = s.orderBy := by
  constructor
  · intro h
    rw [orderby?_eq, orderby?_eq] at h
    have htext : r.sortText? = s.sortText? := Option.map_injective (fun _ _ => Json.text.inj) h
    rw [← sortText?_elim hr, ← sortText?_elim hs, htext]
  · intro h
    rw [orderby?_eq, orderby?_eq, sortText?, sortText?, h]

/-- There is a request for any sort keys that have clauses. -/
theorem exists_isSortedBy {ks : List SortKey} {cs : List String}
    (hcs : sortClauses (ks.map .key) = .ok cs) : ∃ r : SearchRequest, r.IsSortedBy ks := by
  let o := SearchOption.sort (ks.map .key)
  have haccepted : o.isAccepted = true := by
    rw [Draft.isAccepted_eq, show o.setting = (sortClauses (ks.map .key)).map .sort from rfl, hcs]
    rfl
  have hlast : lastAccepted .sort [.set o] = some o := by
    rw [lastAccepted_singleton]
    exact takes?_eq_some_iff.mpr ⟨rfl, rfl, haccepted⟩
  -- the only option is the sort keys, so every other argument is left out
  have hother (k : OptionKind) (hk : o.kind ≠ k) : lastAccepted k [.set o] = none := by
    rw [lastAccepted_singleton]
    exact takes?_eq_none_of_ne hk
  obtain ⟨r, hr⟩ := (Draft.exists_build_eq_ok_iff (Draft.ofCalls [.set o])).mpr (by
    rw [fullText_ofCalls, facets_ofCalls, lastFullText, lastFacets,
      hother .fullText (fun h => by cases h), hother .facets (fun h => by cases h)]
    exact ⟨.inl rfl, fun v hv => absurd hv List.not_mem_nil⟩)
  exact ⟨r, [.set o], hlast, hr⟩

/-- **The joined text determines the sort clauses.** Sort keys on named fields with doubles for
    coordinates have clauses, and their joined text is split into these. Requests for two lists of
    such keys have the same text in their bodies, or both none, exactly if the clauses are the same
    in the same order. -/
theorem orderby_determines (ks ls : List SortKey) (hks : ∀ k ∈ ks, k.readable = true)
    (hls : ∀ k ∈ ls, k.readable = true) :
    ∃ cs ds, sortClauses (ks.map .key) = .ok cs ∧ sortClauses (ls.map .key) = .ok ds
      ∧ splitClauses (",".intercalate cs) = cs
      ∧ (∃ r : SearchRequest, r.IsSortedBy ks) ∧ (∃ s : SearchRequest, s.IsSortedBy ls)
      ∧ ∀ r s : SearchRequest, r.IsSortedBy ks → s.IsSortedBy ls →
        r.orderby? = (if cs = [] then none else some (.text (",".intercalate cs)))
          ∧ (r.orderby? = s.orderby? ↔ cs = ds) := by
  obtain ⟨cs, hcs, hcsplit⟩ := SortKey.exists_sortClauses hks
  obtain ⟨ds, hds, hdsplit⟩ := SortKey.exists_sortClauses hls
  refine ⟨cs, ds, hcs, hds, splitClauses_intercalate hcsplit, exists_isSortedBy hcs,
    exists_isSortedBy hds, fun r s hr hs => ?_⟩
  -- the clauses of a request are those that were compiled from its keys
  have hrcs : r.orderBy = cs := hr.orderBy_eq hcs
  have hsds : s.orderBy = ds := hs.orderBy_eq hds
  subst hrcs hsds
  refine ⟨?_, orderby?_eq_iff hcsplit hdsplit⟩
  rw [orderby?_eq, sortText?]
  split <;> rfl

/-- A field and a distance from a point whose coordinates are no finite numbers, in both orders. -/
theorem orderby_determines_swapped :
    let age := SortKey.byField (.text "Age") .descending
    let near := SortKey.byDistance (.real .nan) (.real (.infinite true)) .ascending (.text "Geo")
    let text := "Age desc,geo.distance(Geo, geography'POINT(nan -inf)') asc"
    splitClauses text = ["Age desc", "geo.distance(Geo, geography'POINT(nan -inf)') asc"]
      ∧ ∃ r s : SearchRequest, r.IsSortedBy [age, near] ∧ s.IsSortedBy [near, age]
        ∧ r.orderby? = some (.text text) ∧ r.orderby? ≠ s.orderby? := by
  intro age near text
  have hage : age.readable = true := by decide
  have hnear : near.readable = true := by decide
  obtain ⟨cs, ds, hcs, hds, hsplit, ⟨r, hr⟩, ⟨s, hs⟩, hbody⟩ := orderby_determines [age, near]
    [near, age] (by simp [hage, hnear]) (by simp [hage, hnear])
  obtain rfl := Except.ok.inj hcs
  obtain rfl := Except.ok.inj hds
  obtain ⟨htext, hiff⟩ := hbody r s hr hs
  exact ⟨hsplit, r, s, hr, hs, htext, fun h => absurd (hiff.mp h) (by decide)⟩

end SearchRequest

end IndexSearch
