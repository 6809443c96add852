import IndexSearch.Proofs.RememberedAnswers

namespace IndexSearch

open SearchRequest Text

/-!
# What an invalidation removes

An invalidation that returns has removed what is under the keys that its pattern stands for, whoever
reads the pattern, and left everything else as it was. So it takes the kept answers of its own index
unless there are brackets or backslashes in the name; and with a name without signs it takes those
of its own index and of the ones whose names go on with a colon. Signs in the name stand for other
names: `Covers` says which, as `matchesPattern` reads them.

* `Searcher.get?_invalidate` — what is under a key afterwards;
* `Searcher.invalidate_takes_matching` — when a kept answer is removed;
* `Searcher.invalidate_takes_covered` — the same for any name, as `matchesPattern` reads it.
-/

namespace Searcher

variable {s : Searcher} (hlinked : s.IsLinked) {server : Server} {i j : String} {m : Matcher}
  {n : Nat} (hreturned : (s.invalidateBy (.text i) server m).1 = .ok n) {r : SearchRequest}

include hlinked hreturned

/-- **An invalidation removes what matches the pattern of its index**, and nothing else. -/
theorem get?_invalidate (key : String) :
    Store.get? key (s.invalidateBy (.text i) server m).2.store
      = if m (indexPattern i).toList key.toList then none else Store.get? key server.store := by
  obtain ⟨l, hlink, hconnected⟩ := hlinked
  have hcall : s.invalidateBy (.text i) server m
      = l.deleteMatchingBy server (indexPattern i) m := by
    rw [invalidateBy, hlink]
    rfl
  rw [hcall] at hreturned ⊢
  have hafter := Link.store_of_deleteMatchingBy hconnected (Prod.ext hreturned rfl)
  rw [hafter, Store.get?_filter fun k => !m (indexPattern i).toList k.toList]
  cases m (indexPattern i).toList key.toList <;> rfl

/-- A kept answer is removed if its key is one of those that the pattern stands for, and stays as it
    is otherwise. -/
theorem get?_invalidate_eq_none_iff {key : String} {t : StoredText}
    (hkept : Store.get? key server.store = some t) :
    Store.get? key (s.invalidateBy (.text i) server m).2.store = none
      ↔ m (indexPattern i).toList key.toList = true := by
  rw [get?_invalidate hlinked hreturned, hkept]
  cases m (indexPattern i).toList key.toList <;> simp

/-- **When an invalidation removes a kept answer**, whoever reads its pattern: if the pattern stands
    for the key of the answer. So it removes the answers of its own index if its name has no
    brackets and no backslashes. If its name has no signs at all, it removes those of its own index
    and of the ones whose names go on with a colon. What it does not remove, it leaves as it is. -/
theorem invalidate_takes_matching (hm : m.IsGlob) {t : StoredText}
    (hkept : Store.get? (r.key j) server.store = some t) :
    let after := (s.invalidateBy (.text i) server m).2.store
    (Store.get? (r.key j) after = none ↔ m (indexPattern i).toList (r.key j).toList = true)
      ∧ (Store.get? (r.key j) after ≠ none → Store.get? (r.key j) after = some t)
      ∧ ((∀ c ∈ i.toList, c ≠ '[' ∧ c ≠ '\\') → i = j → Store.get? (r.key j) after = none)
      ∧ ((∀ c ∈ i.toList, ¬ IsSign c) →
        (Store.get? (r.key j) after = none ↔ i = j ∨ i.toList ++ [':'] <+: j.toList)) := by
  intro after
  have hiff : Store.get? (r.key j) after = none ↔ _ :=
    get?_invalidate_eq_none_iff hlinked hreturned hkept
  refine ⟨hiff, fun hstays => ?_, ?_, fun hi => hiff.trans (indexPattern_takes_iff hm hi r)⟩
  · have hafter : Store.get? (r.key j) after = _ := get?_invalidate hlinked hreturned _
    rw [hafter, if_neg fun hmatch => hstays (hiff.mpr hmatch), hkept]
  · -- such a name matches itself: its stars and question marks take themselves
    rintro hi rfl
    exact hiff.mpr (indexPattern_takes_own hm hi r)

omit hreturned

/-- **An invalidation removes the kept answers of all indexes that its name covers**, and no others,
    where patterns are read by `matchesPattern`. -/
theorem invalidate_takes_covered {t : StoredText}
    (hreturned : (s.invalidate (.text i) server).1 = .ok n)
    (hkept : Store.get? (r.key j) server.store = some t) :
    Store.get? (r.key j) (s.invalidate (.text i) server).2.store = none ↔ Covers i j :=
  (get?_invalidate_eq_none_iff hlinked hreturned hkept).trans (matchesPattern_indexPattern_iff r)

/-- A server without failures lets an invalidation return. -/
theorem exists_invalidate_eq_ok (hserver : server.outage = none) (i : String) (m : Matcher) :
    ∃ n, (s.invalidateBy (.text i) server m).1 = .ok n := by
  obtain ⟨l, hlink, hconnected⟩ := hlinked
  obtain ⟨n, hn⟩ := Link.deleteMatchingBy_eq hconnected hserver (indexPattern i) m
  refine ⟨n, ?_⟩
  rw [invalidateBy, hlink]
  exact congrArg Prod.fst hn

omit hlinked

/-- The names `a` and `a:b`: the first one goes on with a colon to the second, whose answer is
    removed with its own, and not the other way round. -/
theorem invalidate_takes_matching_front :
    let s : Searcher := ⟨.ofService ⟨"https://docs.search.windows.net", .null, .text "2020-06-30",
      .int 30⟩, some ⟨.null, true⟩, .int 300⟩
    let r : SearchRequest := ⟨none, none, [], none, none, [], false⟩
    let server : Server :=
      ⟨[(r.key "a", ⟨"\x7b\x7d", .int 300⟩), (r.key "a:b", ⟨"\x7b\x7d", .int 300⟩)], none⟩
    Store.get? (r.key "a:b") (s.invalidate (.text "a") server).2.store = none
      ∧ Store.get? (r.key "a") (s.invalidate (.text "a:b") server).2.store ≠ none := by
  intro s r server
  have hlinked : s.IsLinked := ⟨_, rfl, rfl⟩
  have hserver : server.outage = none := rfl
  have hne : r.key "a" ≠ r.key "a:b" := by
    intro hkey
    exact absurd (key_eq_iff_fingerprint.mp hkey).1 (by decide)
  have hfirst : Store.get? (r.key "a") server.store = some _ := if_pos rfl
  have hsecond : Store.get? (r.key "a:b") server.store = some _ := (if_neg hne).trans (if_pos rfl)
  -- the name before the colon takes the longer one with it, and not the other way round
  constructor
  · obtain ⟨n, hn⟩ := exists_invalidate_eq_ok hlinked hserver "a" matchesPattern
    have hsigns : ∀ c ∈ "a".toList, ¬ IsSign c := List.all_iff_forall_prop.mp (by decide)
    rw [invalidate]
    exact ((invalidate_takes_matching hlinked hn isGlob_matchesPattern hsecond).2.2.2 hsigns).mpr
      (.inr (by decide))
  · obtain ⟨n, hn⟩ := exists_invalidate_eq_ok hlinked hserver "a:b" matchesPattern
    have hsigns : ∀ c ∈ "a:b".toList, ¬ IsSign c := List.all_iff_forall_prop.mp (by decide)
    rw [invalidate]
    intro hnone
    have hname : "a:b" = "a" ∨ "a:b".toList ++ [':'] <+: "a".toList :=
      ((invalidate_takes_matching hlinked hn isGlob_matchesPattern hfirst).2.2.2 hsigns).mp hnone
    exact absurd hname (by decide)

/-- Answers of other indexes are removed: those of `a:b` with those of `a`, and with those of a
    star. -/
theorem invalidate_takes_other_indexes :
    let s : Searcher := ⟨.ofService ⟨"https://docs.search.windows.net", .null, .text "2020-06-30",
      .int 30⟩, some ⟨.null, true⟩, .int 300⟩
    let r : SearchRequest := ⟨none, none, [], none, none, [], false⟩
    let server := (s.after [.search "a:b" r .plain (.answered 200 [0x7b, 0x7d])]).2
    Store.get? (r.key "a:b") server.store ≠ none
      ∧ Store.get? (r.key "a:b") (s.invalidate (.text "a") server).2.store = none
      ∧ Store.get? (r.key "a:b") (s.invalidate (.text "*") server).2.store = none := by
  intro s r server
  have hlinked : s.IsLinked := ⟨_, rfl, rfl⟩
  have hserver : server.outage = none := Option.isNone_iff_eq_none.mp (by decide +kernel)
  obtain ⟨t, ht⟩ : ∃ t, Store.get? (r.key "a:b") server.store = some t :=
    Option.isSome_iff_exists.mp (by decide +kernel)
  -- the keys of an index go with those of any name that covers it
  have htakes : ∀ i, Covers i "a:b" →
      Store.get? (r.key "a:b") (s.invalidate (.text i) server).2.store = none := by
    intro i hcovers
    obtain ⟨n, hn⟩ := exists_invalidate_eq_ok hlinked hserver i matchesPattern
    exact (invalidate_takes_covered hlinked hn ht).mpr hcovers
  refine ⟨by rw [ht]; exact Option.some_ne_none t, ?_, ?_⟩
  · exact htakes "a" ⟨['a'], by decide, by decide⟩
  · exact htakes "*" ⟨['a', ':', 'b'], by decide, by decide⟩

end Searcher

end IndexSearch
