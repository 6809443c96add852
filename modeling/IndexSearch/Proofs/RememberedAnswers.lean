import IndexSearch.Proofs.RequestKeys
import IndexSearch.Proofs.SearchSteps
import IndexSearch.Proofs.StoreEffects
import Mathlib.Data.List.DropRight

namespace IndexSearch

open SearchRequest Text

/-!
# What a searcher remembers

A searcher with a connected link answers from the history of its calls. Since the last invalidation
of an index, the first answer to a request that is not null is what is recalled for all requests
with the same body; the server keeps exactly what is recalled, and a search asks the service if
nothing is recalled for it. The invariant `Keeps` says so after any calls, and every call keeps it.

* `Call` — one use of a searcher, `Searcher.after` — what calls leave behind;
* `recalled` — what the history of calls holds for a request;
* `Keeps` — the server keeps what is recalled;
* `Keeps.search`, `Keeps.invalidate` — a call keeps the invariant;
* `Searcher.refines_history` — every search of a run does what its history asks for.
-/

/-! ### Calls -/

/-- One use of a searcher. -/
inductive Call where
  /-- A search, with the reply that the network has for it if it is asked. -/
  | search (index : String) (request : SearchRequest) (form : DocumentForm) (reply : Reply)
  /-- The removal of all answers of an index. -/
  | invalidate (index : String)

namespace Call

/-- The index that a call is about. -/
def index : Call → String
  | search index _ _ _ => index
  | invalidate index => index

/-- The request that is searched for. -/
def request? : Call → Option SearchRequest
  | search _ r _ _ => some r
  | invalidate _ => none

/-- Whether a call removes the answers of an index. -/
def isInvalidation (index : String) : Call → Bool
  | search _ _ _ _ => false
  | invalidate i => i = index

/-- The answer that a search with the same body on the same index receives, unless it is null. -/
def answer? (service : Service) (index : String) (r : SearchRequest) : Call → Option Json
  | search i q _ reply =>
    if i = index ∧ q.body = r.body then service.answer? index q reply else none
  | invalidate _ => none

end Call

/-- The searcher and the server after a call. -/
def Searcher.afterCall (now : Searcher × Server) : Call → Searcher × Server
  | .search index r form reply =>
    let x := now.1.search (.text index) r form reply now.2
    ({ now.1 with connection := x.connection }, x.server)
  | .invalidate index => (now.1, (now.1.invalidate (.text index) now.2).2)

/-- The searcher and the server after calls; at first nothing is kept and the server answers. -/
def Searcher.after (s : Searcher) (calls : List Call) : Searcher × Server :=
  calls.foldl afterCall (s, ⟨[], none⟩)

/-- What the history of calls holds for a request on an index: the first answer since the last
    invalidation of the index. Later answers do not count, since a search that finds an earlier one
    does not ask for another. -/
def recalled (service : Service) (calls : List Call) (index : String) (r : SearchRequest) :
    Option Json :=
  (calls.rtakeWhile fun c => !c.isInvalidation index).findSome? (Call.answer? service index r)

/-- What is asked of calls: the names of the indexes can be told apart from the rest of a key, and
    the fingerprints of different requests do not collide. -/
structure Regular (calls : List Call) : Prop where
  /-- Names have no colon and no character that stands for others in a pattern. -/
  names : ∀ c ∈ calls, IsIndexName c.index
  /-- Equal fingerprints are those of equal texts. -/
  prints : ∀ c ∈ calls, ∀ d ∈ calls, ∀ r ∈ c.request?, ∀ q ∈ d.request?,
    fingerprint r.hashedText = fingerprint q.hashedText → r.hashedText = q.hashedText

/-- What is asked of calls holds for the first ones of them. -/
theorem Regular.of_append {calls later : List Call} (h : Regular (calls ++ later)) :
    Regular calls where
  names := fun c hc => h.names c (List.mem_append_left later hc)
  prints := fun c hc d hd =>
    h.prints c (List.mem_append_left later hc) d (List.mem_append_left later hd)

/-! ### What is recalled -/

section Recalled

variable {service : Service} {calls : List Call} {index i : String} {r q : SearchRequest}
  {form : DocumentForm} {reply : Reply} {j : Json}

/-- After a search the history holds what it held before, or else the answer to the search. -/
theorem recalled_append_search :
    recalled service (calls ++ [.search index r form reply]) i q
      = (recalled service calls i q).or
        (Call.answer? service i q (.search index r form reply)) := by
  rw [recalled, List.rtakeWhile_concat_pos _ _ _ rfl, List.findSome?_append]
  show _ = (recalled service calls i q).or _
  cases hanswer : Call.answer? service i q (.search index r form reply) with
  | none => rw [List.findSome?_cons, hanswer]; rfl
  | some j => rw [List.findSome?_cons, hanswer]; rfl

/-- After an invalidation the history holds nothing for the index, and the same for others. -/
theorem recalled_append_invalidate :
    recalled service (calls ++ [.invalidate index]) i q
      = if i = index then none else recalled service calls i q := by
  unfold recalled
  by_cases hi : i = index
  · rw [List.rtakeWhile_concat_neg _ _ _ (by simp [Call.isInvalidation, hi]), if_pos hi]
    rfl
  · have hother : (!(Call.invalidate index).isInvalidation i) = true := by
      simp [Call.isInvalidation, Ne.symm hi]
    rw [List.rtakeWhile_concat_pos (fun c => !Call.isInvalidation i c) _ _ hother,
      List.findSome?_append, if_neg hi]
    show Option.or _ none = _
    rw [Option.or_none]

/-- The history holds the same for requests with the same body. -/
theorem recalled_congr (h : q.body = r.body) :
    recalled service calls index q = recalled service calls index r := by
  have hanswer : Call.answer? service index q = Call.answer? service index r := by
    funext c
    cases c with
    | search i p form reply => simp only [Call.answer?, h]
    | invalidate i => rfl
  rw [recalled, hanswer, recalled]

/-- A search whose answer is recalled adds nothing to the history. -/
theorem recalled_append_of_recalled (h : recalled service calls index r = some j) :
    recalled service (calls ++ [.search index r form reply]) i q = recalled service calls i q := by
  rw [recalled_append_search]
  cases hq : recalled service calls i q with
  | some k => rfl
  | none =>
    rw [Call.answer?, Option.none_or, if_neg]
    rintro ⟨rfl, hbody⟩
    rw [recalled_congr hbody, hq] at h
    cases h

/-- A search for which nothing is recalled adds its answer to the history. -/
theorem recalled_append_of_fresh (h : recalled service calls index r = none) {k : Json} :
    recalled service (calls ++ [.search index r form reply]) i q = some k ↔
      recalled service calls i q = some k
        ∨ (i = index ∧ r.body = q.body ∧ service.answer? index r reply = some k) := by
  rw [recalled_append_search, Call.answer?]
  -- the last call adds an answer to its own index and body, and to no other
  by_cases hsame : index = i ∧ r.body = q.body
  · obtain ⟨rfl, hbody⟩ := hsame
    rw [if_pos ⟨rfl, hbody⟩, ← recalled_congr hbody, h, Option.none_or]
    simp [hbody]
  · rw [if_neg hsame, Option.or_none]
    constructor
    · exact .inl
    · rintro (hq | ⟨rfl, hbody, -⟩)
      · exact hq
      · exact absurd ⟨rfl, hbody⟩ hsame

/-- What is recalled is the answer to a search of the history. -/
theorem exists_search_of_recalled (h : recalled service calls index r = some j) :
    ∃ q form reply, Call.search index q form reply ∈ calls ∧ q.body = r.body
      ∧ service.answer? index q reply = some j := by
  obtain ⟨c, hc, hanswer⟩ := List.exists_of_findSome?_eq_some h
  have hmem : c ∈ calls := (List.rtakeWhile_suffix _ _).subset hc
  cases c with
  | search i q form reply =>
    rw [Call.answer?] at hanswer
    split at hanswer
    · rename_i hsame
      obtain ⟨rfl, hbody⟩ := hsame
      exact ⟨q, form, reply, hmem, hbody, hanswer⟩
    · cases hanswer
  | invalidate i => cases hanswer

/-- A request with the same key as one whose answer is recalled has the same answer recalled: the
    key tells the index, and without collisions the body. -/
theorem recalled_of_key_eq (hregular : Regular (calls ++ [.search index r form reply]))
    (hq : recalled service calls i q = some j) (hkey : q.key i = r.key index) :
    recalled service calls index r = some j := by
  obtain ⟨rfl, hprint⟩ := key_eq_iff_fingerprint.mp hkey
  -- collisions are excluded between the requests of the calls, and `q` need not be one of them
  obtain ⟨p, form', reply', hmem, hbody, -⟩ := exists_search_of_recalled hq
  have htext : p.hashedText = q.hashedText := hashedText_eq_iff.mpr (body_eq_iff.mp hbody)
  have hlast : Call.search i r form reply ∈ calls ++ [.search i r form reply] :=
    List.mem_append_right _ (List.mem_singleton.mpr rfl)
  have hsame : p.hashedText = r.hashedText :=
    hregular.prints _ (List.mem_append_left _ hmem) _ hlast p rfl r rfl (htext ▸ hprint)
  have hbodies : p.body = r.body := body_eq_iff.mpr (hashedText_eq_iff.mp hsame)
  rw [← recalled_congr (hbody.symm.trans hbodies), hq]

/-- Requests with the same body have the same key. -/
theorem key_congr (h : q.body = r.body) : q.key index = r.key index := by
  rw [key, key, hashedText_eq_iff.mpr (body_eq_iff.mp h)]

end Recalled

/-! ### The invariant -/

/-- **The server keeps what is recalled**: for each recalled answer its text, with the time that the
    searcher gives to all of them, and nothing else. What the searcher works with stays as it
    was. -/
structure Keeps (s : Searcher) (calls : List Call) (now : Searcher × Server) : Prop where
  /-- The service is the same. -/
  service : now.1.connection.service = s.connection.service
  /-- The link is the same. -/
  link : now.1.link = s.link
  /-- The time is the same. -/
  ttl : now.1.ttl = s.ttl
  /-- The server answers. -/
  answers : now.2.outage = none
  /-- No key is there twice. -/
  nodup : (now.2.store.map Prod.fst).Nodup
  /-- What is kept is what is recalled. -/
  kept : ∀ e, e ∈ now.2.store ↔ ∃ index r j,
    recalled s.connection.service calls index r = some j
      ∧ e = (r.key index, ⟨j.write Json.spaced, s.ttl⟩)

namespace Keeps

variable {s : Searcher} {calls : List Call} {now : Searcher × Server} {index : String}
  {r : SearchRequest} {form : DocumentForm} {reply : Reply} {j : Json}

/-- At first nothing is kept, and nothing is to be recalled. -/
theorem init (s : Searcher) : Keeps s [] (s, ⟨[], none⟩) where
  service := rfl
  link := rfl
  ttl := rfl
  answers := rfl
  nodup := List.nodup_nil
  kept := by simp [recalled]

/-- What is recalled is found on the server. -/
theorem get?_eq_some (h : Keeps s calls now)
    (hj : recalled s.connection.service calls index r = some j) :
    Store.get? (r.key index) now.2.store = some ⟨j.write Json.spaced, s.ttl⟩ :=
  (Store.get?_eq_some_iff h.nodup).mpr ((h.kept _).mpr ⟨index, r, j, hj, rfl⟩)

/-- What is not recalled is not found on the server. -/
theorem get?_eq_none (h : Keeps s calls now)
    (hregular : Regular (calls ++ [.search index r form reply]))
    (hnone : recalled s.connection.service calls index r = none) :
    Store.get? (r.key index) now.2.store = none := by
  cases hfound : Store.get? (r.key index) now.2.store with
  | none => rfl
  | some t =>
    obtain ⟨i, q, j, hq, he⟩ := (h.kept _).mp ((Store.get?_eq_some_iff h.nodup).mp hfound)
    have hkey := congrArg Prod.fst he
    rw [recalled_of_key_eq hregular hq hkey.symm] at hnone
    cases hnone

/-- What is kept for a recalled answer is read as the answer. -/
theorem decode_write (hj : recalled s.connection.service calls index r = some j) :
    Link.decode (j.write Json.spaced) = .ok j.toValue ∧ j.toValue.isNull = false := by
  obtain ⟨q, form, reply, -, -, hanswer⟩ := exists_search_of_recalled hj
  obtain ⟨hx, hne⟩ := Service.answer?_eq_some_iff_outcome.mp hanswer
  exact ⟨Service.decode_write hx, Json.isNull_toValue_of_ne hne⟩

/-! ### One call -/

section

variable {l : Link} (hlink : s.link = some l) (hconnected : l.connected = true)

include hlink hconnected

/-- A search whose answer is recalled asks nobody and takes the results from the answer. -/
theorem search_recalled (h : Keeps s calls now)
    (hj : recalled s.connection.service calls index r = some j) :
    now.1.search (.text index) r form reply now.2 =
      ⟨(SearchResults.ofValue form j.toValue).mapError .answer, now.1.connection, now.2, []⟩ := by
  obtain ⟨hread, hnull⟩ := decode_write hj
  exact Searcher.search_known (h.link.trans hlink) hconnected h.answers (h.get?_eq_some hj) hread
    hnull

/-- A search for which nothing is recalled asks the service, and its answer is kept. -/
theorem search_fresh (h : Keeps s calls now)
    (hregular : Regular (calls ++ [.search index r form reply]))
    (hnone : recalled s.connection.service calls index r = none) :
    now.1.search (.text index) r form reply now.2 =
      ⟨shaped form (s.connection.service.exchange (.text index) r reply).outcome,
        (now.1.connection.search (.text index) r reply).2,
        match s.connection.service.answer? index r reply with
        | none => now.2
        | some j => { now.2 with
          store := Store.put (r.key index) ⟨j.write Json.spaced, s.ttl⟩ now.2.store },
        (s.connection.service.exchange (.text index) r reply).sent⟩ := by
  rw [← h.service, ← h.ttl]
  exact Searcher.search_unknown (h.link.trans hlink) hconnected h.answers
    (h.get?_eq_none hregular hnone)

/-- **A search keeps the invariant.** -/
theorem search (h : Keeps s calls now)
    (hregular : Regular (calls ++ [.search index r form reply])) :
    Keeps s (calls ++ [.search index r form reply])
      (Searcher.afterCall now (.search index r form reply)) := by
  cases hrecalled : recalled s.connection.service calls index r with
  | some j =>
    -- neither the server nor what is recalled changes
    rw [Searcher.afterCall, h.search_recalled hlink hconnected hrecalled]
    exact { h with
      kept := fun e => by
        rw [h.kept]
        simp only [recalled_append_of_recalled hrecalled] }
  | none =>
    rw [Searcher.afterCall, h.search_fresh hlink hconnected hregular hrecalled]
    have hunknown := h.get?_eq_none hregular hrecalled
    cases hanswer : s.connection.service.answer? index r reply with
    | none =>
      exact { h with
        kept := fun e => by
          rw [h.kept]
          simp only [recalled_append_of_fresh hrecalled, hanswer, reduceCtorEq, and_false,
            or_false] }
    | some j =>
      -- the answer is recalled for all requests with the same body, which have the same key
      refine { service := h.service, link := h.link, ttl := h.ttl, answers := h.answers,
               nodup := Store.nodup_put_of_get?_eq_none _ hunknown h.nodup, kept := fun e => ?_ }
      rw [Store.mem_put_of_get?_eq_none _ hunknown, h.kept]
      simp only [recalled_append_of_fresh hrecalled, hanswer]
      constructor
      · rintro (⟨i, q, k, hk, he⟩ | he)
        · exact ⟨i, q, k, .inl hk, he⟩
        · exact ⟨index, r, j, .inr ⟨rfl, rfl, rfl⟩, he⟩
      · rintro ⟨i, q, k, hk | ⟨rfl, hbody, hk⟩, he⟩
        · exact .inl ⟨i, q, k, hk, he⟩
        · rw [← key_congr hbody, ← Option.some.inj hk] at he
          exact .inr he

/-- **An invalidation keeps the invariant.** -/
theorem invalidate (h : Keeps s calls now) (hregular : Regular (calls ++ [.invalidate index])) :
    Keeps s (calls ++ [.invalidate index]) (Searcher.afterCall now (.invalidate index)) := by
  obtain ⟨n, hn⟩ :=
    Link.deleteMatchingBy_eq hconnected h.answers (indexPattern index) matchesPattern
  have hserver : (now.1.invalidate (.text index) now.2).2 = ⟨now.2.store.filter fun e =>
      !matchesPattern (indexPattern index).toList e.1.toList, none⟩ := by
    rw [Searcher.invalidate, Searcher.invalidateBy, h.link, hlink]
    exact congrArg Prod.snd hn
  have hindex : IsIndexName index :=
    hregular.names (.invalidate index) (List.mem_append_right _ (List.mem_singleton.mpr rfl))
  rw [Searcher.afterCall, hserver]
  refine { service := h.service, link := h.link, ttl := h.ttl, answers := rfl,
           nodup := h.nodup.sublist (List.filter_sublist.map Prod.fst), kept := fun e => ?_ }
  rw [List.mem_filter, h.kept]
  simp only [recalled_append_invalidate]
  -- the keys that are removed are those of the index
  have hkeys : ∀ i q j, recalled s.connection.service calls i q = some j →
      ((!matchesPattern (indexPattern index).toList (q.key i).toList) = true ↔ i ≠ index) := by
    intro i q j hq
    obtain ⟨p, form, reply, hmem, -, -⟩ := exists_search_of_recalled hq
    have hi : IsIndexName i :=
      hregular.names (.search i p form reply) (List.mem_append_left _ hmem)
    rw [Bool.not_eq_true', ← Bool.not_eq_true, matchesPattern_indexPattern hindex hi]
    exact not_congr eq_comm
  constructor
  · rintro ⟨⟨i, q, j, hq, rfl⟩, hkept⟩
    exact ⟨i, q, j, by rw [if_neg ((hkeys i q j hq).mp hkept)]; exact hq, rfl⟩
  · rintro ⟨i, q, j, hq, rfl⟩
    split at hq
    · cases hq
    · rename_i hne
      exact ⟨⟨i, q, j, hq, rfl⟩, (hkeys i q j hq).mpr hne⟩

/-! ### Runs -/

/-- **The invariant holds after any calls.** -/
theorem after (calls : List Call) (hregular : Regular calls) : Keeps s calls (s.after calls) := by
  induction calls using List.reverseRecOn with
  | nil => exact init s
  | append_singleton calls c ih =>
    have hkeeps := ih hregular.of_append
    have hlast : s.after (calls ++ [c]) = Searcher.afterCall (s.after calls) c := by
      rw [Searcher.after, List.foldl_append]
      rfl
    rw [hlast]
    cases c with
    | search index r form reply => exact hkeeps.search hlink hconnected hregular
    | invalidate index => exact hkeeps.invalidate hlink hconnected hregular

end

end Keeps

/-- The searcher without its memory. -/
def Searcher.uncached (s : Searcher) : Searcher := { s with link := none }

/-- **A searcher with a connected link refines the history of its calls.** In a run of searches and
    invalidations, a search for which an answer is recalled sends no request, and takes its results
    from the answer. Any other search sends what it would send without a memory, which is one
    request if requests to the index can be sent and none otherwise, and has the same results. At
    every moment the server keeps exactly the recalled answers, as texts and with the time of the
    searcher. -/
theorem Searcher.refines_history (s : Searcher) {l : Link} (hlink : s.link = some l)
    (hconnected : l.connected = true) (calls : List Call) (hregular : Regular calls) :
    (∀ past index r form reply future, calls = past ++ .search index r form reply :: future →
      let now := s.after past
      let x := now.1.search (.text index) r form reply now.2
      let u := now.1.uncached.search (.text index) r form reply now.2
      (∀ j, recalled s.connection.service past index r = some j →
        x.sent = [] ∧ x.result = (SearchResults.ofValue form j.toValue).mapError .answer)
      ∧ (recalled s.connection.service past index r = none →
        x.sent = u.sent ∧ x.result = u.result
          ∧ (s.connection.service.Reaches index → ∃ q, x.sent = [q] ∧ q.body = r.sentText)
          ∧ (¬ s.connection.service.Reaches index → x.sent = [])))
    ∧ ∀ past future, calls = past ++ future →
      ((s.after past).2.store.map Prod.fst).Nodup
      ∧ ∀ e, e ∈ (s.after past).2.store ↔ ∃ index r j,
        recalled s.connection.service past index r = some j
          ∧ e = (r.key index, ⟨j.write Json.spaced, s.ttl⟩) := by
  constructor
  · -- the invariant holds after the past, and of a search what it says of the calls that are
    -- remembered
    rintro past index r form reply future rfl
    have hstep : Regular (past ++ [.search index r form reply]) := by
      rw [List.append_cons] at hregular
      exact hregular.of_append
    have hkeeps := Keeps.after hlink hconnected past hstep.of_append
    -- the searcher without a store is taken after the same past, so it has the same connection
    have huncached : (s.after past).1.uncached.search (.text index) r form reply (s.after past).2
        = ⟨shaped form (s.connection.service.exchange (.text index) r reply).outcome,
          ((s.after past).1.connection.search (.text index) r reply).2, (s.after past).2,
          (s.connection.service.exchange (.text index) r reply).sent⟩ := by
      have hunlinked : (s.after past).1.uncached.link = none := rfl
      rw [Searcher.search_unlinked hunlinked, ← hkeeps.service]
      rfl
    refine ⟨fun j hj => ?_, fun hnone => ?_⟩
    · rw [hkeeps.search_recalled hlink hconnected hj]
      exact ⟨rfl, rfl⟩
    · rw [hkeeps.search_fresh hlink hconnected hstep hnone, huncached]
      exact ⟨rfl, rfl, Service.sent_exchange.1, Service.sent_exchange.2⟩
  · -- what is stored at each point of the history are the answers that are remembered there
    rintro past future rfl
    have hkeeps := Keeps.after hlink hconnected past hregular.of_append
    exact ⟨hkeeps.nodup, hkeeps.kept⟩

/-- A run of two equal searches: the second one finds the answer to the first and sends nothing,
    although the service cannot be reached any more. -/
theorem Searcher.refines_history_repeated :
    let s : Searcher := ⟨.ofService ⟨"https://docs.search.windows.net", .null, .text "2020-06-30",
      .int 30⟩, some ⟨.null, true⟩, .int 300⟩
    let r : SearchRequest := ⟨none, none, [], none, none, [], false⟩
    let now := s.after [.search "docs" r .plain (.answered 200 [0x7b, 0x7d])]
    (now.1.search (.text "docs") r .plain (.failed "down") now.2).sent = [] := by
  intro s r now
  have hregular : Regular [.search "docs" r .plain (.answered 200 [0x7b, 0x7d]),
      .search "docs" r .plain (.failed "down")] := by
    constructor
    · simp only [List.forall_mem_cons, Call.index]
      decide
    · simp [Call.request?]
  obtain ⟨j, hj⟩ : ∃ j, recalled s.connection.service
      [.search "docs" r .plain (.answered 200 [0x7b, 0x7d])] "docs" r = some j :=
    Option.isSome_iff_exists.mp (by decide +kernel)
  exact (((Searcher.refines_history s rfl rfl _ hregular).1 [_] "docs" r .plain _ [] rfl).1 j hj).1

/-- A name with a line break has no URL: nothing is recalled for it, and no request is sent. -/
theorem Searcher.sends_nothing_for_line_break :
    let s : Searcher := ⟨.ofService ⟨"https://docs.search.windows.net", .null, .text "2020-06-30",
      .int 30⟩, some ⟨.null, true⟩, .int 300⟩
    let r : SearchRequest := ⟨none, none, [], none, none, [], false⟩
    let reply : Reply := .answered 200 [0x7b, 0x7d]
    Regular [.search "a\nb" r .plain reply]
      ∧ recalled s.connection.service [] "a\nb" r = none
      ∧ (s.search (.text "a\nb") r .plain reply ⟨[], none⟩).sent.length = 0 := by
  intro s r reply
  refine ⟨⟨?_, ?_⟩, rfl, by decide +kernel⟩
  · simp only [List.forall_mem_cons, Call.index]
    decide
  · simp [Call.request?]

end IndexSearch
