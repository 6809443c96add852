import IndexSearch.Proofs.SearchSteps

namespace IndexSearch

/-!
# What a failed search leaves behind

A search keeps the answer of the service before it looks into it. So a search that fails for any
other reason leaves the server as it was, and one that fails because the answer is not in order has
changed it if the answer was kept: then every later search for the same finds the answer again and
fails again, whatever the service would reply by then.

* `Searcher.Stores` — when a search keeps the answer of the service;
* `Searcher.fetch_of_stores`, `Searcher.server_fetch_of_not_stores` — what becomes of the server;
* `Searcher.failed_search_leaves` — the server after a failed search.
-/

namespace Searcher

/-- Whether a search keeps what the service answers: nothing is known, the answer is some JSON
    other than null, and there is a server that takes it. -/
structure Stores (s : Searcher) (index : Value) (r : SearchRequest) (reply : Reply)
    (server : Server) (j : Json) : Prop where
  /-- There is a connected link. -/
  linked : s.IsLinked
  /-- Nothing is known. -/
  unknown : s.lookUp server (r.key index.plain) = .ok .null
  /-- The service answers. -/
  answered : (s.connection.service.exchange index r reply).outcome = .ok j
  /-- The answer is not null. -/
  ne_null : j ≠ .null
  /-- The server takes it. -/
  taken : server.failure? .set = none

variable {s : Searcher} {index : Value} {r : SearchRequest} {form : DocumentForm} {reply : Reply}
  {server : Server} {j : Json}

/-- A search that keeps the answer has it as its body. -/
theorem fetch_of_stores (h : s.Stores index r reply server j) :
    (s.fetch index r reply server).result = .ok j.toValue
      ∧ (s.fetch index r reply server).server = s.withAnswer server (r.key index.plain) j := by
  have hkeep : s.keep server (r.key index.plain) j.toValue
      = .ok (s.withAnswer server (r.key index.plain) j) := by
    rw [keep_of_linked h.linked _ (Service.readable_of_outcome h.answered), h.taken]
  -- of the courses that a fetch can take, the hypotheses leave the one that keeps the answer
  have hcourse := fetch_course s index r reply server
  generalize s.fetch index r reply server = o at hcourse ⊢
  cases hcourse with
  | unread hlookUp => cases hlookUp.symm.trans h.unknown
  | known hlookUp hv =>
    cases hlookUp.symm.trans h.unknown
    cases hv
  | unanswered _ hx => cases hx.symm.trans h.answered
  | null _ hx => exact absurd (Except.ok.inj (h.answered.symm.trans hx)) h.ne_null
  | unkept _ hx _ hfail =>
    cases hx.symm.trans h.answered
    cases hfail.symm.trans hkeep
  | kept _ hx _ hkept =>
    cases hx.symm.trans h.answered
    cases hkept.symm.trans hkeep
    exact ⟨rfl, rfl⟩

/-- A search that keeps no answer leaves the server as it was. -/
theorem server_fetch_of_not_stores (h : ∀ j, ¬ s.Stores index r reply server j) :
    (s.fetch index r reply server).server = server := by
  have hcourse := fetch_course s index r reply server
  generalize s.fetch index r reply server = o at hcourse ⊢
  -- only one course of a fetch changes the store
  cases hcourse with
  | kept hlookUp hx hj hkept =>
    rename_i j server'
    by_cases hlinked : s.IsLinked
    · -- the server took the answer, so the search is one that keeps it
      have htaken : server.failure? .set = none := by
        rw [keep_of_linked hlinked _ (Service.readable_of_outcome hx)] at hkept
        split at hkept
        · cases hkept
        · assumption
      exact absurd ⟨hlinked, hlookUp, hx, hj, htaken⟩ (h j)
    · rw [(lookUp_and_keep_of_not_linked hlinked _ _).2] at hkept
      exact (Except.ok.inj hkept).symm
  | _ => rfl

/-- What a search keeps is known afterwards. -/
theorem lookUp_of_stores (h : s.Stores index r reply server j) :
    s.lookUp (s.withAnswer server (r.key index.plain) j) (r.key index.plain) = .ok j.toValue := by
  -- the server said before that it has nothing
  have hget : server.failure? .get = none := by
    have hunknown := h.unknown
    rw [lookUp_of_linked h.linked] at hunknown
    split at hunknown
    · cases hunknown
    · assumption
    · assumption
  exact lookUp_withAnswer h.linked hget _ (Service.decode_write h.answered)

/-- Keeping an answer changes the server. -/
theorem withAnswer_ne (h : s.Stores index r reply server j) :
    s.withAnswer server (r.key index.plain) j ≠ server := by
  intro heq
  have hknown := lookUp_of_stores h
  rw [heq, h.unknown] at hknown
  have hnull := Json.isNull_toValue_of_ne h.ne_null
  rw [← Except.ok.inj hknown] at hnull
  cases hnull

/-- What comes of a search that keeps the answer, and of every one for the same after it: the
    results in the answer, or the error that comes instead of them. -/
theorem search_of_stores (h : s.Stores index r reply server j) (form : DocumentForm) :
    let kept := s.withAnswer server (r.key index.plain) j
    (s.search index r form reply server).server = kept
      ∧ (s.search index r form reply server).result
        = (SearchResults.ofValue form j.toValue).mapError .answer
      ∧ ∀ reply', (s.search index r form reply' kept).result
          = (SearchResults.ofValue form j.toValue).mapError .answer
        ∧ (s.search index r form reply' kept).sent = [] := by
  intro kept
  obtain ⟨hbody, hserver⟩ := fetch_of_stores h
  refine ⟨by rw [search_eq, hserver], by rw [search_eq, hbody]; rfl, fun reply' => ?_⟩
  -- the second search finds what the first one kept
  have hagain : s.fetch index r reply' kept = _ :=
    fetch_of_known (lookUp_of_stores h) (Json.isNull_toValue_of_ne h.ne_null)
  rw [search_eq, hagain]
  exact ⟨rfl, rfl⟩

/-- The server changes if and only if the search keeps the answer. -/
theorem server_search_eq_iff : (s.search index r form reply server).server = server
    ↔ ∀ j, ¬ s.Stores index r reply server j := by
  constructor
  · intro hsame j hj
    exact withAnswer_ne hj ((search_of_stores hj form).1.symm.trans hsame)
  · intro hnone
    rw [search_eq]
    exact server_fetch_of_not_stores hnone

/-- **A failed search leaves the server as it was unless it keeps the answer of the service.** Then
    the server has the text of the answer, which is not in order, and searching again fails in the
    same way without asking the service. A search that fails for another reason than the answer
    changes nothing. -/
theorem failed_search_leaves {e : SearchFailure}
    (h : (s.search index r form reply server).result = .error e) :
    let after := (s.search index r form reply server).server
    (after = server ↔ ∀ j, ¬ s.Stores index r reply server j)
      ∧ ((∀ e', e ≠ .answer e') → after = server)
      ∧ ∀ j, s.Stores index r reply server j →
        after = s.withAnswer server (r.key index.plain) j
          ∧ (SearchResults.ofValue form j.toValue).mapError .answer = .error e
          ∧ ∀ reply', (s.search index r form reply' after).result = .error e
            ∧ (s.search index r form reply' after).sent = [] := by
  -- what is kept is the answer, so the search fails where the results are taken from it
  have hfails : ∀ j, s.Stores index r reply server j →
      (SearchResults.ofValue form j.toValue).mapError .answer = .error e := by
    intro j hj
    rw [← (search_of_stores hj form).2.1, h]
  refine ⟨server_search_eq_iff, fun hother => ?_, fun j hj => ?_⟩
  · -- an answer that is kept fails only where the results are taken from it
    rw [server_search_eq_iff]
    intro j hj
    have herror := hfails j hj
    cases hvalue : SearchResults.ofValue form j.toValue with
    | ok results =>
      rw [hvalue] at herror
      cases herror
    | error e' =>
      rw [hvalue] at herror
      exact hother e' (Except.error.inj herror).symm
  · obtain ⟨hserver, -, hagain⟩ := search_of_stores hj form
    rw [hfails j hj] at hagain
    rw [hserver]
    exact ⟨rfl, hfails j hj, hagain⟩

/-- The answer `{"value": 5}` has no list of results: the search that receives it fails and keeps
    it, and the next search fails with it although the service has an answer in order by then. -/
theorem failed_search_leaves_number :
    let s : Searcher := ⟨.ofService ⟨"https://docs.search.windows.net", .null, .text "2020-06-30",
      .int 30⟩, some ⟨.null, true⟩, .int 300⟩
    let r : SearchRequest := ⟨none, none, [], none, none, [], false⟩
    let o := s.search (.text "docs") r .plain (.answered 200
      [0x7b, 0x22, 0x76, 0x61, 0x6c, 0x75, 0x65, 0x22, 0x3a, 0x20, 0x35, 0x7d]) ⟨[], none⟩
    ∃ e, o.result = .error e ∧ o.server ≠ ⟨[], none⟩
      ∧ (s.search (.text "docs") r .plain (.answered 200 [0x7b, 0x7d]) o.server).result
        = .error e := by
  intro s r o
  obtain ⟨j, hj⟩ : ∃ j, s.connection.service.answer? "docs" r (.answered 200
      [0x7b, 0x22, 0x76, 0x61, 0x6c, 0x75, 0x65, 0x22, 0x3a, 0x20, 0x35, 0x7d]) = some j :=
    Option.isSome_iff_exists.mp (by decide +kernel)
  obtain ⟨hx, hne⟩ := Service.answer?_eq_some_iff_outcome.mp hj
  have hfails : o.result.toOption.isSome = false := by decide +kernel
  cases he : o.result with
  | ok results =>
    rw [he] at hfails
    cases hfails
  | error e =>
    -- the body is JSON of a status of success, hence kept, though its value is no list of documents
    have hstores : s.Stores (.text "docs") r (.answered 200
        [0x7b, 0x22, 0x76, 0x61, 0x6c, 0x75, 0x65, 0x22, 0x3a, 0x20, 0x35, 0x7d]) ⟨[], none⟩ j :=
      ⟨⟨_, rfl, rfl⟩, rfl, hx, hne, rfl⟩
    obtain ⟨hiff, -, hkept⟩ := failed_search_leaves he
    obtain ⟨-, -, hagain⟩ := hkept j hstores
    exact ⟨e, rfl, fun hsame => hiff.mp hsame j hstores, (hagain _).1⟩

/-- A failed search can leave something behind: `{"value": 5}` under the key of the request. -/
theorem failed_search_keeps_answer :
    let s : Searcher := ⟨.ofService ⟨"https://docs.search.windows.net", .null, .text "2020-06-30",
      .int 30⟩, some ⟨.null, true⟩, .int 300⟩
    let r : SearchRequest := ⟨none, none, [], none, none, [], false⟩
    let o := s.search (.text "docs") r .plain (.answered 200
      [0x7b, 0x22, 0x76, 0x61, 0x6c, 0x75, 0x65, 0x22, 0x3a, 0x20, 0x35, 0x7d]) ⟨[], none⟩
    o.result.toOption.isSome = false
      ∧ o.server.store.map (fun e => (e.1, e.2.text))
        = [(r.key "docs", "\x7b\"value\": 5\x7d")] := by
  decide +kernel

end Searcher

end IndexSearch
