import IndexSearch.Proofs.StoreEffects
import IndexSearch.Searcher
import Mathlib.Data.Finset.Card
import Mathlib.Data.Finset.SDiff

namespace IndexSearch

open Text

/-!
# How many keys are removed

The keys that match a pattern are removed one by one while the server still lists them. The order is
the server's own, and a key may be listed again after it has been removed. So the keys are not
counted as they are listed: a removal counts what it finds. With each of them the number counted and
the number of keys left add up to the same, and this carries over to the run. Whatever the listing,
the pairs whose keys do not match are left, and the count is the number of the keys gone.

* `Store.keys` — the keys of a store;
* `Server.card_keys_of_delete`, `Link.card_keys_of_deleteAll` — what is counted and what is left, for
  one key and for a list of them;
* `Server.Lists` — which lists of keys are listings of those that match; `Server.Lists.of_scan`,
  `Server.Lists.of_deleteAll` — the one given at once, and those given while keys are removed;
* `Link.deleteListed` — the removal by a pattern for any listing;
* `Link.removals_counted` — what it leaves and what it returns;
* `Searcher.count_of_invalidateBy` — what an invalidation returns.
-/

namespace Store

/-- The keys of a store. -/
def keys (s : Store) : Finset String := (s.map Prod.fst).toFinset

/-- The keys of a store are those under which something is. -/
theorem mem_keys_iff {key : String} {s : Store} : key ∈ s.keys ↔ (get? key s).isSome = true := by
  rw [keys, List.mem_toFinset, ← not_iff_not, ← get?_eq_none_iff, Option.not_isSome_iff_eq_none]

/-- The keys of what is kept of a store are those of its keys that are kept. -/
theorem mem_keys_filter (kept : String → Bool) {key : String} {s : Store} :
    key ∈ keys (s.filter fun e => kept e.1) ↔ key ∈ s.keys ∧ kept key = true := by
  rw [mem_keys_iff, mem_keys_iff, get?_filter]
  cases kept key <;> simp

/-- To remove a key is to take it from the keys. -/
theorem keys_erase (key : String) (s : Store) : (s.erase key).keys = s.keys.erase key := by
  ext k
  rw [Finset.mem_erase, mem_keys_iff, mem_keys_iff]
  by_cases hk : k = key
  · rw [hk, get?_erase_self]
    simp
  · rw [get?_erase_of_ne hk, and_iff_right hk]

end Store

/-! ### What is counted and what is left -/

/-- **What the removal of a key counts and the number of keys left** add up to the number of keys
    before, whether the key was there or not. -/
theorem Server.card_keys_of_delete {s s' : Server} {k : String} {n : Nat}
    (h : s.delete k = .ok (n, s')) : n + s'.store.keys.card = s.store.keys.card := by
  obtain ⟨-, rfl, rfl⟩ := delete_eq_ok_iff.mp h
  simp only [Store.keys_erase, ← Store.mem_keys_iff]
  by_cases hk : k ∈ s.store.keys
  · -- the key is there: it is counted, and one key less is left
    rw [if_pos hk, Nat.add_comm, Finset.card_erase_add_one hk]
  · -- it is not, or no longer: nothing is counted and all keys are left
    rw [if_neg hk, Nat.zero_add, Finset.erase_eq_of_notMem hk]

namespace Link

/-- **What the removal of a list of keys counts and the number of keys left** add up to the number
    of keys before, however often a key is in the list. -/
theorem card_keys_of_deleteAll {s s' : Server} {keys : List String} {n : Nat}
    (h : deleteAll s keys = (.ok n, s')) : n + s'.store.keys.card = s.store.keys.card := by
  induction keys generalizing s n with
  | nil =>
    cases h
    exact Nat.zero_add _
  | cons k r ih =>
    obtain ⟨m, m', s₁, hdelete, hrest, rfl⟩ := deleteAll_cons_eq_ok_iff.mp h
    calc m + m' + s'.store.keys.card
      _ = m + (m' + s'.store.keys.card) := Nat.add_assoc _ _ _
      _ = m + s₁.store.keys.card := by rw [ih hrest]
      _ = s.store.keys.card := Server.card_keys_of_delete hdelete

/-- The keys that were there and no longer are have been counted, and no others. -/
theorem count_of_deleteAll {s s' : Server} {keys : List String} {n : Nat}
    (h : deleteAll s keys = (.ok n, s')) : n = (s.store.keys \ s'.store.keys).card := by
  have hsub : s'.store.keys ⊆ s.store.keys := by
    rw [store_of_deleteAll h]
    exact fun k hk => ((Store.mem_keys_filter fun k => k ∉ keys).mp hk).1
  rw [Finset.card_sdiff_of_subset hsub, ← card_keys_of_deleteAll h, Nat.add_sub_cancel]

end Link

/-! ### Removal with any listing -/

/-- Whether a list is one of the keys that match a pattern: they are all there, in any order and any
    number of times, and nothing in it does not match. Keys that the server has no longer may be in
    it, since keys are removed while others are still being listed. -/
structure Server.Lists (s : Server) (pattern : String) (m : Matcher) (listed : List String) :
    Prop where
  /-- What is listed matches. -/
  matching : ∀ k ∈ listed, m pattern.toList k.toList = true
  /-- The keys that match are listed. -/
  complete : ∀ k ∈ s.store.keys, m pattern.toList k.toList = true → k ∈ listed

namespace Server.Lists

variable {s : Server} {pattern : String} {m : Matcher} {listed : List String}

/-- What the server answers when it is asked for the keys that match is a listing of them. -/
theorem of_scan (h : s.scan pattern m = .ok listed) : s.Lists pattern m listed := by
  have hmem : ∀ k, k ∈ listed ↔ k ∈ s.store.keys ∧ m pattern.toList k.toList = true := by
    intro k
    rw [← (scan_eq_ok_iff.mp h).2, Store.matching, List.mem_filter, Store.keys, List.mem_toFinset]
  exact ⟨fun k hk => ((hmem k).mp hk).2, fun k hk hmatch => (hmem k).mpr ⟨hk, hmatch⟩⟩

/-- While the keys that are listed are removed, a server need not list more than the matching keys
    that stay to the end. There are none in the end, so all that were there have been listed. -/
theorem of_deleteAll {s' : Server} {n : Nat}
    (hmatching : ∀ k ∈ listed, m pattern.toList k.toList = true)
    (h : Link.deleteAll s listed = (.ok n, s'))
    (hstays : ∀ k ∈ s'.store.keys, m pattern.toList k.toList = true → k ∈ listed) :
    s.Lists pattern m listed where
  matching := hmatching
  complete k hk hmatch := by
    by_contra hnew
    have hleft : k ∈ s'.store.keys := by
      rw [Link.store_of_deleteAll h]
      exact (Store.mem_keys_filter fun k => k ∉ listed).mpr ⟨hk, decide_eq_true hnew⟩
    exact hnew (hstays k hleft hmatch)

/-- The pairs with keys that are not listed are those with keys that do not match. -/
theorem filter_eq (h : s.Lists pattern m listed) :
    (s.store.filter fun e => e.1 ∉ listed)
      = s.store.filter fun e => !m pattern.toList e.1.toList := by
  refine List.filter_congr fun e he => ?_
  have hkey : e.1 ∈ s.store.keys := List.mem_toFinset.mpr (List.mem_map_of_mem he)
  have hiff : e.1 ∈ listed ↔ m pattern.toList e.1.toList = true :=
    ⟨h.matching e.1, h.complete e.1 hkey⟩
  simp [hiff]

end Server.Lists

namespace Link

/-- Removes the keys that the server lists, one by one, and counts those that were there. -/
def deleteListed (l : Link) (s : Server) (listing : Except ServerError (List String)) :
    Except LinkError Nat × Server :=
  if !l.connected then (.ok 0, s)
  else match listing with
    | .error e => (.error (.server e), s)
    | .ok keys => deleteAll s keys

/-- The removal by a pattern is the one with the listing that the server gives at once. -/
theorem deleteMatchingBy_eq_deleteListed (l : Link) (s : Server) (pattern : String) (m : Matcher) :
    l.deleteMatchingBy s pattern m = l.deleteListed s (s.scan pattern m) := rfl

variable {l : Link} (hl : l.connected = true) {s : Server} (hs : s.failure? .delete = none)
  {pattern : String} {m : Matcher} {listed : List String}

include hl

/-- The keys that were listed are removed one after the other. -/
theorem deleteListed_ok (s : Server) (keys : List String) :
    l.deleteListed s (.ok keys) = deleteAll s keys := by
  rw [deleteListed, hl]
  rfl

include hs

/-- **What the removal of all that was listed leaves and counts**, if the list has all that matches.
    -/
theorem deleteListed_eq (h : s.Lists pattern m listed) :
    let after : Server := { s with store := s.store.filter fun e => !m pattern.toList e.1.toList }
    l.deleteListed s (.ok listed) = (.ok (s.store.keys \ after.store.keys).card, after) := by
  intro after
  obtain ⟨n, hn⟩ := exists_deleteAll_eq_ok hs listed
  rw [h.filter_eq] at hn
  rw [deleteListed_ok hl, hn, count_of_deleteAll hn]

/-- Where no key matches, nothing is removed. -/
theorem deleteListed_eq_zero (h : s.Lists pattern m listed)
    (hnone : ∀ e ∈ s.store, m pattern.toList e.1.toList = false) :
    l.deleteListed s (.ok listed) = (.ok 0, s) := by
  have hstore : (s.store.filter fun e => !m pattern.toList e.1.toList) = s.store :=
    List.filter_eq_self.mpr fun e he => by rw [hnone e he]; rfl
  have hremoved := deleteListed_eq hl hs h
  rw [hstore] at hremoved
  rw [hremoved, Finset.sdiff_self, Finset.card_empty]

/-- **Removal by a pattern counts what it removes.** Whatever the listing — in any order, with keys
    listed again after they have been removed —, what is left are the pairs whose keys do not match,
    as they were, and the number returned is that of the keys gone. Another removal right after, with
    any listing, returns zero and changes nothing. The listing that the server gives at once is one
    of them, so the removal by the pattern is the same. -/
theorem removals_counted (hlisted : s.Lists pattern m listed) :
    let after : Server := { s with store := s.store.filter fun e => !m pattern.toList e.1.toList }
    l.deleteListed s (.ok listed) = (.ok (s.store.keys \ after.store.keys).card, after)
      ∧ (∀ key, Store.get? key after.store
          = if m pattern.toList key.toList then none else Store.get? key s.store)
      ∧ (∀ again, after.Lists pattern m again →
          l.deleteListed after (.ok again) = (.ok 0, after))
      ∧ (s.failure? .scan = none →
          l.deleteMatchingBy s pattern m = l.deleteListed s (.ok listed)
            ∧ l.deleteMatchingBy after pattern m = (.ok 0, after)) := by
  intro after
  have hfirst : l.deleteListed s (.ok listed) = _ := deleteListed_eq hl hs hlisted
  -- the keys that match are gone, so a second listing can name none that is there
  have hagain : ∀ again, after.Lists pattern m again →
      l.deleteListed after (.ok again) = (.ok 0, after) := by
    refine fun again h => deleteListed_eq_zero (s := after) hl hs h fun e he => ?_
    simpa using (List.mem_filter.mp he).2
  refine ⟨hfirst, fun key => ?_, hagain, fun hscan => ⟨?_, ?_⟩⟩
  · rw [Store.get?_filter fun k => !m pattern.toList k.toList]
    cases m pattern.toList key.toList <;> rfl
  · -- the result does not depend on the listing
    have hgiven : s.scan pattern m = .ok _ := Server.scan_eq_ok_iff.mpr ⟨hscan, rfl⟩
    rw [deleteMatchingBy_eq_deleteListed, hgiven, hfirst]
    exact deleteListed_eq hl hs (.of_scan hgiven)
  · have hgiven : after.scan pattern m = .ok _ := Server.scan_eq_ok_iff.mpr ⟨hscan, rfl⟩
    rw [deleteMatchingBy_eq_deleteListed, hgiven]
    exact hagain _ (.of_scan hgiven)

omit hl hs

/-- Of three keys two match, and one of these is listed twice: it is counted once. Afterwards it may
    be listed again. -/
theorem removals_counted_repeated :
    let l : Link := ⟨.null, true⟩
    let server : Server :=
      ⟨[("x:1", ⟨"1", .int 300⟩), ("y", ⟨"2", .null⟩), ("x:2", ⟨"3", .int 5⟩)], none⟩
    let after : Server := ⟨[("y", ⟨"2", .null⟩)], none⟩
    server.Lists "x:*" matchesPattern ["x:2", "x:1", "x:2"]
      ∧ l.deleteListed server (.ok ["x:2", "x:1", "x:2"]) = (.ok 2, after)
      ∧ l.deleteListed after (.ok ["x:2"]) = (.ok 0, after)
      ∧ l.deleteMatching server "x:*" = (.ok 2, after) := by
  intro l server after
  have hlisted : server.Lists "x:*" matchesPattern ["x:2", "x:1", "x:2"] :=
    ⟨by decide, by decide⟩
  have hagain : after.Lists "x:*" matchesPattern ["x:2"] := ⟨by decide, by decide⟩
  obtain ⟨hfirst, -, hsecond, hgiven⟩ :=
    removals_counted (l := l) rfl (s := server) rfl hlisted
  -- of the three reported keys two are different
  have hcount : (server.store.keys \ after.store.keys).card = 2 := by decide
  have hremoved : l.deleteListed server (.ok ["x:2", "x:1", "x:2"]) = (.ok 2, after) := by
    rw [← hcount]
    exact hfirst
  exact ⟨hlisted, hremoved, hsecond _ hagain, (hgiven rfl).1.trans hremoved⟩

end Link

/-- **An invalidation returns the number of keys that it removed**, whatever the searcher is linked
    to. -/
theorem Searcher.count_of_invalidateBy {s : Searcher} {index : Value} {server server' : Server}
    {m : Matcher} {n : Nat} (h : s.invalidateBy index server m = (.ok n, server')) :
    n = (server.store.keys \ server'.store.keys).card := by
  -- where nothing is removed, nothing is counted
  have hnothing : (server.store.keys \ server.store.keys).card = 0 := by
    rw [Finset.sdiff_self, Finset.card_empty]
  unfold invalidateBy Link.deleteMatchingBy at h
  split at h
  · -- no link
    cases h
    exact hnothing.symm
  · split at h
    · -- the link is not connected
      cases h
      exact hnothing.symm
    · split at h
      · cases h
      · exact Link.count_of_deleteAll h

end IndexSearch
