import IndexSearch.Proofs.CallHistory

namespace IndexSearch

open SearchRequest Text

/-!
# Answers that outlive an invalidation

Nothing ties the keeping of an answer to the look-up before it. So a search that is under way while
an invalidation goes on can have an old answer kept after the keys were listed, and searches that
begin when the invalidation has returned find it. This is the only way where the invalidation lists
the keys of its own index, as every server has it for names without brackets and backslashes: an
answer that such a search returns was either fetched by itself, or kept after the keys were listed.

* `World.stale_answer_was_kept_late` — where the answer comes from that a search returns after an
  invalidation;
* `World.run_race` — an old answer that is returned after an invalidation.
-/

namespace World

/-- **An old answer that a search returns after an invalidation was kept late.** Let a search on an
    index, whose name has no brackets and no backslashes, begin after an invalidation of the index
    over a connected link has returned without an error. Then the service has produced its answer for
    a search under the same key: either for itself, and then not before the invalidation began; or
    for a search that had it kept after the invalidation listed the keys, and before it was found. -/
theorem stale_answer_was_kept_late {m : Matcher} (hm : m.IsGlob) {es : List Event} {w : World}
    (hrun : (init m).run es = some w) {i b n : Nat} {sᵢ s s' : Searcher} {c' : Call}
    {index : String} (hindex : ∀ c ∈ index.toList, c ≠ '[' ∧ c ≠ '\\') {r : SearchRequest}
    {form : DocumentForm} {reply : Reply} {v : Value} (hlinked : sᵢ.IsLinked)
    (hi : w.calls[i]? = some ⟨sᵢ, .invalidate index, .returned (.count (.ok n))⟩)
    (hb : w.calls[b]? = some ⟨s, .search index r form reply, .returned (.body (.ok v))⟩)
    (hafter : Precedes es (.act i .finish) (.begin b s' c')) :
    ∃ a, Fetched es (r.key index) v a
      ∧ ((a = b ∧ ∀ s c, ¬ Precedes es (.act a .produce) (.begin i s c))
        ∨ (Precedes es (.act i .list) (.act a .keep)
          ∧ Precedes es (.act a .keep) (.act b .look))) := by
  have hcons := consistent_of_run hrun
  have hlt : i < b := hcons.ordered i .finish b s' c' hafter
  have hsound : Fetched es (r.key index) v b ∨ Found m es s (r.key index) v b := hcons.sound b _ hb
  rcases hsound with hfetched | ⟨before, after, w₀, rfl, hrun₀, hb₀, hlookUp, hv⟩
  · refine ⟨b, hfetched, .inl ⟨rfl, fun s c hprec => ?_⟩⟩
    have hgt : b < i := hcons.ordered b .produce i s c hprec
    omega
  · -- when the answer was found, the invalidation had returned
    have hnot : Event.begin b s' c' ∉ .act b .look :: after := by
      intro hmem
      have hmem' : Event.begin b s' c' ∈ after := by simpa using hmem
      have hprec : Precedes (before ++ .act b .look :: after) (.act b .look) (.begin b s' c') := by
        rw [List.append_cons]
        exact precedes_of_mem (List.mem_append_right before List.mem_cons_self) hmem'
      exact absurd (hcons.ordered b .look b s' c' hprec) (Nat.lt_irrefl b)
    have hfinish : Event.act i .finish ∈ before := hafter.mem_of_notMem hnot
    have hcons₀ := consistent_of_run hrun₀
    obtain ⟨t, ht⟩ : ∃ t, w₀.calls[i]? = some t :=
      ⟨_, List.getElem?_eq_getElem (hcons₀.known i .finish hfinish)⟩
    obtain ⟨x, hx⟩ := hcons₀.finished i t hfinish ht
    have hlater : w₀.run (.act b .look :: after) = some w := by
      rw [run_append, hrun₀] at hrun
      exact hrun
    have hsame := (getElem?_of_returned hlater ht hx).symm.trans hi
    cases hsame
    -- so all that lay under keys of the index by then had been kept after the keys were listed
    have hcleared : Cleared m before w₀.server.store i index [] :=
      hcons₀.sound i _ ht hlinked
    obtain ⟨u, hu, hvalue⟩ := Searcher.exists_text_of_lookUp hlookUp hv
    have hmatch := indexPattern_takes_own hm hindex r
    rcases hcleared.2 _ u hu hmatch with hleft | ⟨w, a, hread, hfetched, hprec⟩
    · cases hleft
    · cases hread.symm.trans hvalue
      exact ⟨a, hfetched.append _, .inr ⟨hprec.append _,
        precedes_of_mem hprec.mem_right List.mem_cons_self⟩⟩

/-- The events of a search that has its answer kept while an invalidation is over, and of one that
    begins then and finds it. -/
def race (s : Searcher) (index : String) (r : SearchRequest) (form : DocumentForm)
    (reply reply' : Reply) : List Event :=
  [.begin 0 s (.search index r form reply), .act 0 .look, .act 0 .send, .act 0 .produce,
    .act 0 .receive, .begin 1 s (.invalidate index), .act 1 .list, .act 1 .finish, .act 0 .keep,
    .act 0 .finish, .begin 2 s (.search index r form reply'), .act 2 .look, .act 2 .finish]

/-- **An old answer can be returned after an invalidation**, whatever is searched for, whatever the
    service would reply by then and whoever reads the pattern. -/
theorem run_race {m : Matcher} {s : Searcher} (hlinked : s.IsLinked) {index : String}
    {r : SearchRequest} {form : DocumentForm} {reply reply' : Reply} {j : Json}
    (hanswer : s.answer index r reply = .ok j) (hj : j ≠ .null) :
    (init m).run (race s index r form reply reply')
      = some ⟨m, s.withAnswer ⟨[], none⟩ (r.key index) j,
        [⟨s, .search index r form reply, .returned (.body (.ok j.toValue))⟩,
          ⟨s, .invalidate index, .returned (.count (.ok 0))⟩,
          ⟨s, .search index r form reply', .returned (.body (.ok j.toValue))⟩]⟩ := by
  have hunknown : s.lookUp ⟨[], none⟩ (r.key index) = .ok .null := by
    rw [Searcher.lookUp_of_linked hlinked]
    rfl
  have hkeep : s.keep ⟨[], none⟩ (r.key index) j.toValue
      = .ok (s.withAnswer ⟨[], none⟩ (r.key index) j) := by
    rw [Searcher.keep_of_linked hlinked _ (Service.readable_of_outcome hanswer)]
    rfl
  have hknown : s.lookUp (s.withAnswer ⟨[], none⟩ (r.key index) j) (r.key index)
      = .ok j.toValue := by
    exact Searcher.lookUp_withAnswer hlinked rfl _ (Service.decode_write hanswer)
  obtain ⟨c, url, -, -, hsent⟩ := Service.sent_of_outcome hanswer
  -- the acts of the first search, of the invalidation and of the second search
  have hlook : OpenCall.act ⟨s, .search index r form reply, .looking⟩ m ⟨[], none⟩ .look
      = some (⟨s, .search index r form reply, .sending⟩, ⟨[], none⟩) := by
    rw [OpenCall.act_search, Searcher.searchAct, hunknown]
    rfl
  have hsend : OpenCall.act ⟨s, .search index r form reply, .sending⟩ m ⟨[], none⟩ .send
      = some (⟨s, .search index r form reply, .asking⟩, ⟨[], none⟩) := by
    rw [OpenCall.act_search, Searcher.searchAct, hsent]
    rfl
  have hreceive : OpenCall.act ⟨s, .search index r form reply, .replied⟩ m ⟨[], none⟩ .receive
      = some (⟨s, .search index r form reply, .keeping⟩, ⟨[], none⟩) := by
    rw [OpenCall.act_search, OpenCall.receive_of_ne hanswer hj]
    rfl
  have hlist : OpenCall.act ⟨s, .invalidate index, .listing⟩ m ⟨[], none⟩ .list
      = some (⟨s, .invalidate index, .removing [] 0⟩, ⟨[], none⟩) := by
    obtain ⟨l, hlink, hconnected⟩ := hlinked
    rw [OpenCall.act_invalidate, Searcher.invalidateAct, hlink]
    simp only [hconnected, Bool.not_true, Bool.false_eq_true, if_false]
    rfl
  have hkept : OpenCall.act ⟨s, .search index r form reply, .keeping⟩ m ⟨[], none⟩ .keep
      = some (⟨s, .search index r form reply, .returning (.body (.ok j.toValue))⟩,
        s.withAnswer ⟨[], none⟩ (r.key index) j) := by
    simp only [OpenCall.act_search, Searcher.searchAct, hanswer, hkeep, Option.map_some]
  have hfind : OpenCall.act ⟨s, .search index r form reply', .looking⟩ m
      (s.withAnswer ⟨[], none⟩ (r.key index) j) .look
      = some (⟨s, .search index r form reply', .returning (.body (.ok j.toValue))⟩,
        s.withAnswer ⟨[], none⟩ (r.key index) j) := by
    have hnull : j.toValue.isNull = false := Json.isNull_toValue_of_ne hj
    simp only [OpenCall.act_search, Searcher.searchAct, hknown, hnull, Option.map_some]
    rfl
  calc (init m).run (race s index r form reply reply')
    _ = run ⟨m, ⟨[], none⟩, [⟨s, .search index r form reply, .asking⟩]⟩ _ :=
      (run_begin (init m) s _ _).trans ((run_act rfl hlook).trans (run_act rfl hsend))
    _ = run ⟨m, ⟨[], none⟩, [⟨s, .search index r form reply, .keeping⟩]⟩ _ :=
      (run_act rfl rfl).trans (run_act rfl hreceive)
    _ = run ⟨m, ⟨[], none⟩, [⟨s, .search index r form reply, .keeping⟩,
        ⟨s, .invalidate index, .returned (.count (.ok 0))⟩]⟩ _ :=
      (run_begin _ s _ _).trans ((run_act rfl hlist).trans (run_act rfl rfl))
    _ = run ⟨m, s.withAnswer ⟨[], none⟩ (r.key index) j,
        [⟨s, .search index r form reply, .returned (.body (.ok j.toValue))⟩,
          ⟨s, .invalidate index, .returned (.count (.ok 0))⟩]⟩ _ :=
      (run_act rfl hkept).trans (run_act rfl rfl)
    _ = _ := (run_begin _ s _ _).trans ((run_act rfl hfind).trans (run_act rfl rfl))

/-- In the race the invalidation has returned before the second search begins, and the answer that
    this finds was kept by the first one after the keys were listed. -/
theorem stale_answer_was_kept_late_race :
    let s : Searcher := ⟨.ofService ⟨"https://docs.search.windows.net", .null, .text "2020-06-30",
      .int 30⟩, some ⟨.null, true⟩, .int 300⟩
    let r : SearchRequest := ⟨none, none, [], none, none, [], false⟩
    let es := race s "docs" r .plain (.answered 200 [0x7b, 0x7d]) (.failed "down")
    ∃ v a, Fetched es (r.key "docs") v a
      ∧ ((a = 2 ∧ ∀ s c, ¬ Precedes es (.act a .produce) (.begin 1 s c))
        ∨ (Precedes es (.act 1 .list) (.act a .keep)
          ∧ Precedes es (.act a .keep) (.act 2 .look))) := by
  intro s r es
  obtain ⟨j, hj⟩ : ∃ j, s.connection.service.answer? "docs" r (.answered 200 [0x7b, 0x7d])
      = some j := Option.isSome_iff_exists.mp (by decide +kernel)
  obtain ⟨hanswer, hne⟩ := Service.answer?_eq_some_iff_outcome.mp hj
  have hrun : (init matchesPattern).run es = some _ := run_race ⟨_, rfl, rfl⟩ hanswer hne
  have hafter : Precedes es (.act 1 .finish)
      (.begin 2 s (.search "docs" r .plain (.failed "down"))) := by
    simp [Precedes, es, race, List.cons_sublist_cons']
  have hindex : ∀ c ∈ "docs".toList, c ≠ '[' ∧ c ≠ '\\' := List.all_iff_forall_prop.mp (by decide)
  exact ⟨_, stale_answer_was_kept_late isGlob_matchesPattern hrun hindex ⟨_, rfl, rfl⟩ rfl rfl
    hafter⟩

/-- An answer that was produced before an invalidation began is returned after the invalidation has
    returned, by a search for which the service has nothing any more. -/
theorem stale_answer_is_returned :
    let s : Searcher := ⟨.ofService ⟨"https://docs.search.windows.net", .null, .text "2020-06-30",
      .int 30⟩, some ⟨.null, true⟩, .int 300⟩
    let r : SearchRequest := ⟨none, none, [], none, none, [], false⟩
    let es := race s "docs" r .plain (.answered 200 [0x7b, 0x7d]) (.failed "down")
    ∃ w j, (init matchesPattern).run es = some w
      ∧ s.answer "docs" r (.answered 200 [0x7b, 0x7d]) = .ok j
      ∧ w.calls[1]? = some ⟨s, .invalidate "docs", .returned (.count (.ok 0))⟩
      ∧ w.calls[2]? = some ⟨s, .search "docs" r .plain (.failed "down"),
        .returned (.body (.ok j.toValue))⟩
      ∧ Precedes es (.act 0 .produce) (.begin 1 s (.invalidate "docs"))
      ∧ Precedes es (.act 1 .finish) (.begin 2 s (.search "docs" r .plain (.failed "down"))) := by
  intro s r es
  obtain ⟨j, hj⟩ : ∃ j, s.connection.service.answer? "docs" r (.answered 200 [0x7b, 0x7d])
      = some j := Option.isSome_iff_exists.mp (by decide +kernel)
  obtain ⟨hanswer, hne⟩ := Service.answer?_eq_some_iff_outcome.mp hj
  have hrun : (init matchesPattern).run es = some _ := run_race ⟨_, rfl, rfl⟩ hanswer hne
  refine ⟨_, j, hrun, hanswer, rfl, rfl, ?_, ?_⟩
  · simp [Precedes, es, race, List.cons_sublist_cons']
  · simp [Precedes, es, race, List.cons_sublist_cons']

end World

end IndexSearch
