import IndexSearch.Proofs.PatternMatching
import IndexSearch.Proofs.RequestKeys
import IndexSearch.Store.Link
import Mathlib.Data.Bool.AllAny
import Mathlib.Data.List.Induction

namespace IndexSearch

open Text

/-!
# What commands leave in a store

What a server keeps after a text was put under a new key and after the keys of a pattern were
removed, as a statement about its pairs. In the pattern of an index the name of the index is read as
a pattern itself, and what follows its colon may be anything. So the pattern takes the keys of the
index unless its name has brackets or backslashes, and with a name without signs it takes those of
the names that go on with a colon as well.

* `Store.mem_put_of_get?_eq_none` — a new key adds one pair;
* `Server.scan_eq_ok_iff`, `Server.delete_eq_ok_iff` — when keys are listed and removed;
* `Link.exists_deleteAll_eq_ok` — the removal of keys one by one;
* `Link.store_of_deleteMatchingBy` — removing by a pattern leaves the pairs whose keys do not match;
* `indexPattern_takes_own` — the pattern of an index takes its keys;
* `indexPattern_takes_iff` — whose keys the pattern of a name without signs takes;
* `matchesPattern_indexPattern_iff` — the same for any name, as `matchesPattern` reads it.
-/

namespace Store

/-- Nothing is under a key exactly if no entry has it. -/
theorem get?_eq_none_iff {key : String} {s : Store} :
    get? key s = none ↔ key ∉ s.map Prod.fst := by
  induction s with
  | nil => simp [get?]
  | cons e r ih =>
    by_cases h : e.1 = key
    · simp [get?, h]
    · rw [get?, if_neg h, ih, List.map_cons, List.mem_cons, not_or]
      exact ⟨fun hr => ⟨Ne.symm h, hr⟩, And.right⟩

/-- In a store without a key twice the text under a key is the one of its pair. -/
theorem get?_eq_some_iff {key : String} {t : StoredText} {s : Store}
    (hnodup : (s.map Prod.fst).Nodup) : get? key s = some t ↔ (key, t) ∈ s := by
  induction s with
  | nil => simp [get?]
  | cons e r ih =>
    obtain ⟨hnew, hr⟩ := List.nodup_cons.mp hnodup
    by_cases h : e.1 = key
    · -- the pairs that follow have other keys
      have hrest : (key, t) ∉ r := fun hmem => hnew (h ▸ List.mem_map_of_mem hmem)
      rw [get?, if_pos h, Option.some.injEq, List.mem_cons, or_iff_left hrest]
      constructor
      · rintro rfl
        exact Prod.ext h.symm rfl
      · intro heq
        rw [← heq]
    · have hne : (key, t) ≠ e := fun heq => h (heq ▸ rfl)
      rw [get?, if_neg h, ih hr, List.mem_cons, or_iff_right hne]

/-- What is under a key when pairs are removed by their keys. -/
theorem get?_filter (kept : String → Bool) (key : String) (s : Store) :
    get? key (s.filter fun e => kept e.1) = if kept key then get? key s else none := by
  induction s with
  | nil => simp [get?]
  | cons e r ih =>
    by_cases hkey : e.1 = key
    · subst hkey
      cases h : kept e.1 <;> simp [get?, h, ih]
    · cases h : kept e.1 <;> simp [get?, h, hkey, ih]

/-- What is there after a key was removed was there before, under another key. -/
theorem get?_of_erase {key k : String} {t : StoredText} {s : Store}
    (h : get? key (erase k s) = some t) : key ≠ k ∧ get? key s = some t := by
  by_cases hkey : key = k
  · rw [hkey, get?_erase_self] at h
    cases h
  · rw [get?_erase_of_ne hkey] at h
    exact ⟨hkey, h⟩

/-- What is put under a new key comes last. -/
theorem put_of_get?_eq_none {key : String} (t : StoredText) {s : Store} (h : get? key s = none) :
    put key t s = s ++ [(key, t)] := by
  induction s with
  | nil => rfl
  | cons e r ih =>
    rw [get?] at h
    split at h
    · cases h
    · rename_i hne
      rw [put, if_neg hne, ih h, List.cons_append]

/-- A text that is put under a new key is added to the pairs. -/
theorem mem_put_of_get?_eq_none {key : String} (t : StoredText) {s : Store}
    (h : get? key s = none) (e : String × StoredText) :
    e ∈ put key t s ↔ e ∈ s ∨ e = (key, t) := by
  rw [put_of_get?_eq_none t h, List.mem_append, List.mem_singleton]

/-- No key occurs twice after something is put under a new one. -/
theorem nodup_put_of_get?_eq_none {key : String} (t : StoredText) {s : Store}
    (h : get? key s = none) (hnodup : (s.map Prod.fst).Nodup) :
    ((put key t s).map Prod.fst).Nodup := by
  rw [put_of_get?_eq_none t h, List.map_append, List.nodup_append]
  refine ⟨hnodup, List.nodup_cons.mpr ⟨List.not_mem_nil, List.nodup_nil⟩, ?_⟩
  intro k hk k' hk' heq
  have hkey : k = key := heq.trans (List.mem_singleton.mp hk')
  exact get?_eq_none_iff.mp h (hkey ▸ hk)

end Store

/-! ### Removing keys -/

namespace Server

variable {s s' : Server} {k : String} {n : Nat}

/-- A server that is asked for the keys that match lists them, unless that fails. -/
theorem scan_eq_ok_iff {pattern : String} {m : Matcher} {keys : List String} :
    s.scan pattern m = .ok keys ↔
      s.failure? .scan = none ∧ Store.matching pattern s.store m = keys := by
  unfold scan
  cases s.failure? .scan <;> simp

/-- A server removes a key and counts it if it was there, unless that fails; nothing else about it
    changes. -/
theorem delete_eq_ok_iff :
    s.delete k = .ok (n, s') ↔
      s.failure? .delete = none ∧ (if (Store.get? k s.store).isSome then 1 else 0) = n
        ∧ { s with store := s.store.erase k } = s' := by
  unfold delete
  cases s.failure? .delete <;> simp

/-- A key that is removed is taken from the store. -/
theorem store_of_delete (h : s.delete k = .ok (n, s')) : s'.store = s.store.erase k := by
  rw [← (delete_eq_ok_iff.mp h).2.2]

end Server

namespace Link

/-- The first key is removed before the others. -/
theorem deleteAll_cons {s s' : Server} {k : String} {n : Nat} (h : s.delete k = .ok (n, s'))
    (keys : List String) : deleteAll s (k :: keys)
      = ((deleteAll s' keys).1.map fun m => n + m, (deleteAll s' keys).2) := by
  simp only [deleteAll, h]
  rcases deleteAll s' keys with ⟨_ | _, _⟩ <;> rfl

/-- Keys are all removed if the first one is and then the others, and what is counted for them is
    added up. -/
theorem deleteAll_cons_eq_ok_iff {s s' : Server} {k : String} {keys : List String} {n : Nat} :
    deleteAll s (k :: keys) = (.ok n, s') ↔
      ∃ m m' s₁, s.delete k = .ok (m, s₁) ∧ deleteAll s₁ keys = (.ok m', s') ∧ m + m' = n := by
  cases hdelete : s.delete k with
  | error e => simp [deleteAll, hdelete]
  | ok x =>
    rw [deleteAll_cons hdelete]
    rcases hrest : deleteAll x.2 keys with ⟨_ | m', s₂⟩
    · refine iff_of_false (fun h => by cases h) ?_
      rintro ⟨m, m', s₁, hx, hkeys, -⟩
      cases hx
      rw [hrest] at hkeys
      cases hkeys
    · constructor
      · intro h
        cases h
        exact ⟨x.1, m', x.2, rfl, hrest, rfl⟩
      · rintro ⟨m, m', s₁, hx, hkeys, rfl⟩
        cases hx
        rw [hrest] at hkeys
        cases hkeys
        rfl

/-- Removing keys one by one leaves the pairs with other keys. -/
theorem store_of_deleteAll {s s' : Server} {keys : List String} {n : Nat}
    (h : deleteAll s keys = (.ok n, s')) : s'.store = s.store.filter fun e => e.1 ∉ keys := by
  induction keys generalizing s n with
  | nil =>
    cases h
    simp
  | cons k r ih =>
    obtain ⟨m, m', s₁, hdelete, hrest, -⟩ := deleteAll_cons_eq_ok_iff.mp h
    rw [ih hrest, Server.store_of_delete hdelete, Store.erase, List.filter_filter]
    refine List.filter_congr fun e _ => ?_
    simp [Bool.and_comm]

/-- **A server on which removals do not fail removes all keys that are named**, and nothing else
    about it changes. -/
theorem exists_deleteAll_eq_ok {s : Server} (h : s.failure? .delete = none) (keys : List String) :
    ∃ n, deleteAll s keys
      = (.ok n, { s with store := s.store.filter fun e => e.1 ∉ keys }) := by
  have hreturns : ∃ n s', deleteAll s keys = (.ok n, s') ∧ s'.outage = s.outage := by
    induction keys generalizing s with
    | nil => exact ⟨0, s, rfl, rfl⟩
    | cons k r ih =>
      have hdelete : s.delete k = .ok (_, { s with store := s.store.erase k }) :=
        Server.delete_eq_ok_iff.mpr ⟨h, rfl, rfl⟩
      obtain ⟨n, s', hrest, hs'⟩ := ih (s := { s with store := s.store.erase k }) h
      exact ⟨_, s', deleteAll_cons_eq_ok_iff.mpr ⟨_, n, _, hdelete, hrest, rfl⟩, hs'⟩
  obtain ⟨n, ⟨store, outage⟩, hn, houtage⟩ := hreturns
  have hstore : store = _ := store_of_deleteAll hn
  have hkept : outage = s.outage := houtage
  exact ⟨n, by rw [hn, hstore, hkept]⟩

/-- Removing by a pattern leaves the pairs whose keys do not match it. -/
theorem store_of_deleteMatchingBy {l : Link} (hl : l.connected = true) {s s' : Server}
    {pattern : String} {m : Matcher} {n : Nat} (h : l.deleteMatchingBy s pattern m = (.ok n, s')) :
    s'.store = s.store.filter fun e => !m pattern.toList e.1.toList := by
  unfold deleteMatchingBy at h
  simp only [hl, Bool.not_true, Bool.false_eq_true, if_false] at h
  split at h
  · cases h
  · rename_i keys hscan
    rw [store_of_deleteAll h, ← (Server.scan_eq_ok_iff.mp hscan).2]
    refine List.filter_congr fun e he => ?_
    have hmem : e.1 ∈ s.store.map Prod.fst := List.mem_map_of_mem he
    simp only [Store.matching, List.mem_filter, hmem, true_and]
    cases m pattern.toList e.1.toList <;> rfl

/-- A server without failures removes by a pattern. -/
theorem deleteMatchingBy_eq {l : Link} (hl : l.connected = true) {s : Server}
    (h : s.outage = none) (pattern : String) (m : Matcher) :
    ∃ n, l.deleteMatchingBy s pattern m
      = (.ok n, ⟨s.store.filter fun e => !m pattern.toList e.1.toList, none⟩) := by
  have hworks : ∀ c, s.failure? c = none := Server.failure?_eq_none h
  obtain ⟨n, hn⟩ := exists_deleteAll_eq_ok (hworks .delete) (Store.matching pattern s.store m)
  have hall : l.deleteMatchingBy s pattern m = deleteAll s (Store.matching pattern s.store m) := by
    rw [deleteMatchingBy, hl, Server.scan_eq_ok_iff.mpr ⟨hworks .scan, rfl⟩]
    rfl
  rw [hn] at hall
  have hstore : s.store.filter _ = _ := store_of_deleteMatchingBy hl hall
  exact ⟨n, by rw [hall, hstore, h]⟩

end Link

/-! ### The keys of an index -/

/-- Whether the name can be told apart from what surrounds it in keys and patterns: it has no colon
    and none of the characters that stand for others in a pattern. -/
def IsIndexName (index : String) : Prop :=
  ∀ c ∈ index.toList, c ≠ ':' ∧ c ≠ '*' ∧ c ≠ '?' ∧ c ≠ '[' ∧ c ≠ ']' ∧ c ≠ '\\'

instance (index : String) : Decidable (IsIndexName index) :=
  decidable_of_iff (index.toList.all fun c =>
    c ≠ ':' ∧ c ≠ '*' ∧ c ≠ '?' ∧ c ≠ '[' ∧ c ≠ ']' ∧ c ≠ '\\') List.all_iff_forall_prop

/-- Whether a name, read as a pattern, stands for another one or for a front of it that ends before
    a colon. -/
def Covers (index name : String) : Prop :=
  ∃ front, front ++ [':'] <+: name.toList ++ [':'] ∧ matchesPattern index.toList front = true

/-- A front that ends in a character which the rest lacks is a front of what precedes the rest. -/
theorem append_singleton_prefix_append {x : Char} {a front rest : List Char} (hx : x ∉ rest) :
    a ++ [x] <+: front ++ rest ↔ a ++ [x] <+: front := by
  induction rest using List.reverseRecOn with
  | nil => rw [List.append_nil]
  | append_singleton r d ih =>
    rw [List.mem_append, not_or, List.mem_singleton] at hx
    have hlast : a ++ [x] ≠ front ++ r ++ [d] := by
      intro h
      exact hx.2 (List.singleton_inj.mp (List.append_inj_right' h rfl))
    rw [← List.append_assoc, List.prefix_concat_iff, ih hx.1, or_iff_right hlast]

namespace SearchRequest

/-- The characters of a key: the front, the index and the fingerprint. -/
theorem toList_key (index : String) (r : SearchRequest) :
    (key index r).toList = "azquery:search:".toList
      ++ (index.toList ++ [':'] ++ (fingerprint r.hashedText).toList) := by
  show ("azquery:search:" ++ index ++ ":" ++ fingerprint r.hashedText).toList = _
  simp only [String.toList_append, List.append_assoc]
  rfl

/-- The characters of a pattern: the front, the index and the star. -/
theorem toList_indexPattern (index : String) :
    (indexPattern index).toList = "azquery:search:".toList ++ (index.toList ++ [':', '*']) := by
  show ("azquery:search:" ++ index ++ ":" ++ "*").toList = _
  simp only [String.toList_append, List.append_assoc]
  rfl

/-- No character before the name is a sign. -/
theorem not_isSign_stem : ∀ c ∈ "azquery:search:".toList, ¬ IsSign c :=
  List.all_iff_forall_prop.mp (by decide)

/-- **The pattern of an index takes the keys of the index**, whoever reads it, unless there are
    brackets or backslashes in the name. -/
theorem indexPattern_takes_own {m : Matcher} (hm : m.IsGlob) {index : String}
    (hindex : ∀ c ∈ index.toList, c ≠ '[' ∧ c ≠ '\\') (r : SearchRequest) :
    m (indexPattern index).toList (key index r).toList = true := by
  rw [toList_indexPattern, toList_key, List.append_assoc]
  refine (hm.literal_append not_isSign_stem).mpr ⟨_, rfl, hm.self_append hindex ?_⟩
  exact (hm.literal (by decide)).mpr ⟨_, rfl, hm.star_all _⟩

/-- **The pattern of a name without signs takes the keys of the index and of those whose names go on
    with a colon**, whoever reads it. -/
theorem indexPattern_takes_iff {m : Matcher} (hm : m.IsGlob) {i j : String}
    (hi : ∀ c ∈ i.toList, ¬ IsSign c) (r : SearchRequest) :
    m (indexPattern i).toList (key j r).toList = true ↔ i = j ∨ i.toList ++ [':'] <+: j.toList := by
  have hname : ∀ c ∈ i.toList ++ [':'], ¬ IsSign c := by
    intro c hc
    rcases List.mem_append.mp hc with hc | hc
    · exact hi c hc
    · rw [List.mem_singleton.mp hc]
      decide
  rw [toList_indexPattern, toList_key, hm.literal_append not_isSign_stem]
  simp only [List.append_cancel_left_eq, exists_eq_left']
  rw [List.append_cons, hm.literal_append hname]
  simp only [hm.star_all, and_true]
  -- the fingerprint has no colon, so the colon of the pattern is not in it
  calc (∃ t, j.toList ++ [':'] ++ (fingerprint r.hashedText).toList = i.toList ++ [':'] ++ t)
    _ ↔ i.toList ++ [':'] <+: j.toList ++ [':'] ++ (fingerprint r.hashedText).toList :=
      exists_congr fun t => eq_comm
    _ ↔ i.toList ++ [':'] <+: j.toList ++ [':'] :=
      append_singleton_prefix_append (colon_notMem_fingerprint r.hashedText)
    _ ↔ i = j ∨ i.toList ++ [':'] <+: j.toList := by
      rw [List.prefix_concat_iff, List.append_left_inj, String.toList_inj]

/-- A key matches the pattern of an index with a regular name if it is of that index. -/
theorem matchesPattern_indexPattern {i i' : String} (hi : IsIndexName i) (hi' : IsIndexName i')
    (r : SearchRequest) :
    matchesPattern (indexPattern i).toList (key i' r).toList = true ↔ i = i' := by
  have hsigns : ∀ c ∈ i.toList, ¬ IsSign c := by
    intro c hc
    obtain ⟨-, hstar, hmark, hbracket, -, hbackslash⟩ := hi c hc
    rintro (h | h | h | h)
    exacts [hstar h, hmark h, hbracket h, hbackslash h]
  have hcolon : ¬ i.toList ++ [':'] <+: i'.toList := fun h =>
    (hi' _ (h.subset (List.mem_append_right _ List.mem_cons_self))).1 rfl
  rw [indexPattern_takes_iff isGlob_matchesPattern hsigns, or_iff_left hcolon]

/-- **A key matches the pattern of an index that covers its own.** The name of the index is read as
    a pattern, and the star after its colon takes what is left of the key. -/
theorem matchesPattern_indexPattern_iff {i j : String} (r : SearchRequest) :
    matchesPattern (indexPattern i).toList (key j r).toList = true ↔ Covers i j := by
  have hcolon : ∀ s, matchesPattern [':', '*'] s = true ↔ ∃ t, s = ':' :: t := by
    intro s
    rw [isGlob_matchesPattern.literal (by decide)]
    simp only [isGlob_matchesPattern.star_all, and_true]
  rw [toList_indexPattern, toList_key, isGlob_matchesPattern.literal_append not_isSign_stem]
  simp only [List.append_cancel_left_eq, exists_eq_left', matchesPattern_append, hcolon]
  constructor
  · rintro ⟨front, _, heq, hfront, t, rfl⟩
    refine ⟨front, ?_, hfront⟩
    rw [← append_singleton_prefix_append (colon_notMem_fingerprint r.hashedText), heq]
    exact ⟨t, by rw [List.append_assoc]; rfl⟩
  · rintro ⟨front, ⟨t, ht⟩, hfront⟩
    refine ⟨front, ':' :: (t ++ (fingerprint r.hashedText).toList), ?_, hfront, _, rfl⟩
    rw [← ht]
    simp only [List.append_assoc, List.cons_append, List.nil_append]

end SearchRequest

end IndexSearch
