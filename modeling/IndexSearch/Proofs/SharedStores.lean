import IndexSearch.Proofs.SearchSteps
import IndexSearch.Proofs.StoreEffects
import IndexSearch.Session

namespace IndexSearch

/-!
# Searchers that share a server

Any number of searchers and sessions, each with a service and a link of its own, may use one
key-value server. A key holds the index and the fingerprint of the request and nothing about the
service, so what one of them has kept is found by all others that search for the same. Every answer
that is found was fetched before, from the service of whoever fetched it, on the same index and with
the same fingerprint.

* `Party`, `Use`, `Server.afterUses` — who uses a server, how, and what uses leave behind;
* `Use.Fetches` — when a search has its answer from its own service;
* `Sourced`, `sourced_afterUses` — all that is kept was fetched;
* `found_was_fetched` — where an answer comes from that is found.
-/

/-! ### Uses of a server -/

/-- Who can search. -/
inductive Party where
  /-- A searcher by itself. -/
  | searcher (s : Searcher)
  /-- A session, which can search while it is entered. -/
  | session (s : Session)

namespace Party

/-- What a party searches with, if it can search. -/
def searcher? : Party → Option Searcher
  | searcher s => some s
  | session s => s.searcher

/-- The server after a search, and the requests sent. -/
def search (p : Party) (index : Value) (r : SearchRequest) (form : DocumentForm) (reply : Reply)
    (server : Server) : Server × List SentRequest :=
  match p with
  | searcher s =>
    ((s.search index r form reply server).server, (s.search index r form reply server).sent)
  | session s =>
    ((s.search index r form reply server).server, (s.search index r form reply server).sent)

/-- The server after the removal of the answers of an index. -/
def invalidate (p : Party) (index : Value) (server : Server) : Server :=
  match p with
  | searcher s => (s.invalidate index server).2
  | session s => (s.invalidate index server).2

variable {p : Party} {s : Searcher} {index : Value} {r : SearchRequest} {form : DocumentForm}
  {reply : Reply} {server : Server}

/-- A party with a searcher searches with it. -/
theorem search_eq (h : p.searcher? = some s) :
    p.search index r form reply server
      = ((s.fetch index r reply server).server, (s.fetch index r reply server).sent) := by
  cases p with
  | searcher s' =>
    cases h
    rw [search, Searcher.search_eq]
  | session s' =>
    rw [searcher?] at h
    simp only [search, Session.search, h, Searcher.search_eq]

/-- A party without one sends nothing and changes nothing. -/
theorem search_of_none (h : p.searcher? = none) :
    p.search index r form reply server = (server, []) := by
  cases p with
  | searcher s' => cases h
  | session s' =>
    rw [searcher?] at h
    simp only [search, Session.search, h]

end Party

/-- What can happen to a server. -/
inductive Use where
  /-- A party searches, with the reply that the network has for it if it asks. -/
  | search (p : Party) (index : Value) (r : SearchRequest) (form : DocumentForm) (reply : Reply)
  /-- A party removes the answers of an index. -/
  | invalidate (p : Party) (index : Value)
  /-- The time of a key is over. -/
  | expiry (key : String)
  /-- Commands begin to fail, or to work again. -/
  | outage (o : Option Outage)

namespace Server

/-- The server after a use. -/
def afterUse (server : Server) : Use → Server
  | .search p index r form reply => (p.search index r form reply server).1
  | .invalidate p index => p.invalidate index server
  | .expiry key => { server with store := server.store.erase key }
  | .outage o => { server with outage := o }

/-- The server after uses; at first it keeps nothing. -/
def afterUses (uses : List Use) : Server := uses.foldl afterUse ⟨[], none⟩

/-- One more use is made of the server as the earlier ones left it. -/
theorem afterUses_append (past : List Use) (u : Use) :
    afterUses (past ++ [u]) = (afterUses past).afterUse u := by
  rw [afterUses, List.foldl_append]
  rfl

end Server

/-- Whether a use is a search that has its answer `j` from its own service: one request is sent, to
    the URL of the index there, and the service answers. -/
def Use.Fetches (u : Use) (server : Server) (s : Searcher) (index : Value) (r : SearchRequest)
    (j : Json) : Prop :=
  ∃ p form reply, u = .search p index r form reply ∧ p.searcher? = some s
    ∧ (s.connection.service.exchange index r reply).outcome = .ok j
    ∧ ∃ c url, s.connection.service.channel = .ok c
      ∧ s.connection.service.searchUrl c.base index.plain = .ok url
      ∧ (p.search index r form reply server).2.map SentRequest.url = [String.ofList url.toChars]

/-! ### Removing -/

/-- Removing keys one by one adds nothing, whether or not it comes to its end. -/
theorem Link.get?_of_deleteAll {key : String} {t : StoredText} (keys : List String)
    {server : Server}
    (h : Store.get? key (deleteAll server keys).2.store = some t) :
    Store.get? key server.store = some t := by
  -- induction on the keys that are deleted: what is still there was there before each of them
  induction keys generalizing server with
  | nil => exact h
  | cons k r ih =>
    cases hdelete : server.delete k with
    | error e =>
      simp only [deleteAll, hdelete] at h
      exact h
    | ok x =>
      obtain ⟨n, server₁⟩ := x
      rw [deleteAll_cons hdelete] at h
      have hrest := ih h
      rw [Server.store_of_delete hdelete] at hrest
      exact (Store.get?_of_erase hrest).2

/-- An invalidation adds nothing. -/
theorem Searcher.get?_of_invalidate {s : Searcher} {index : Value} {server : Server} {key : String}
    {t : StoredText} (h : Store.get? key (s.invalidate index server).2.store = some t) :
    Store.get? key server.store = some t := by
  unfold Searcher.invalidate Searcher.invalidateBy Link.deleteMatchingBy at h
  split at h
  · exact h
  · split at h
    · exact h
    · split at h
      · exact h
      · exact Link.get?_of_deleteAll _ h

/-- What is there after an invalidation was there before. -/
theorem Party.get?_of_invalidate {p : Party} {index : Value} {server : Server} {key : String}
    {t : StoredText} (h : Store.get? key (p.invalidate index server).store = some t) :
    Store.get? key server.store = some t := by
  cases p with
  | searcher s => exact Searcher.get?_of_invalidate h
  | session s =>
    simp only [Party.invalidate, Session.invalidate] at h
    split at h
    · exact h
    · exact Searcher.get?_of_invalidate h

/-! ### Where answers come from -/

/-- **All that is kept was fetched**: every text stands for the answer that some use of the run has
    from its own service, and lies under the key of that use. -/
def Sourced (uses : List Use) (server : Server) : Prop :=
  ∀ key t, Store.get? key server.store = some t →
    ∃ before u after s index r j, uses = before ++ u :: after
      ∧ u.Fetches (Server.afterUses before) s index r j
      ∧ r.key index.plain = key ∧ Link.decode t.text = .ok j.toValue

namespace Sourced

variable {past : List Use} {server : Server}

/-- What was fetched by an earlier time was fetched by a later one. -/
theorem of_kept (h : Sourced past server) (u : Use) {server' : Server}
    (hkept : ∀ key t, Store.get? key server'.store = some t →
      Store.get? key server.store = some t) :
    Sourced (past ++ [u]) server' := by
  intro key t ht
  obtain ⟨before, v, after, s, index, r, j, rfl, hfetches⟩ := h key t (hkept key t ht)
  refine ⟨before, v, after ++ [u], s, index, r, j, ?_, hfetches⟩
  rw [List.append_assoc, List.cons_append]

/-- **A search adds at most the answer that it fetches.** -/
theorem search (h : Sourced past (Server.afterUses past)) (p : Party) (index : Value)
    (r : SearchRequest) (form : DocumentForm) (reply : Reply) :
    Sourced (past ++ [.search p index r form reply])
      (p.search index r form reply (Server.afterUses past)).1 := by
  cases hp : p.searcher? with
  | none =>
    rw [Party.search_of_none hp]
    exact h.of_kept _ fun _ _ => id
  | some s =>
    have hsearch : p.search index r form reply (Server.afterUses past) = _ := Party.search_eq hp
    have hcourse := Searcher.fetch_course s index r reply (Server.afterUses past)
    generalize s.fetch index r reply (Server.afterUses past) = o at hsearch hcourse
    rw [hsearch]
    -- only a search that keeps its answer adds to the store
    cases hcourse with
    | kept hlookUp hx hj hkeep =>
      rename_i j server'
      intro key t ht
      rcases Searcher.get?_of_keep (Service.readable_of_outcome hx) hkeep ht with hold | ⟨rfl, rfl⟩
      · exact h.of_kept _ (fun _ _ => id) key t hold
      · -- the answer was asked for by this very use, at the address of its searcher
        obtain ⟨c, url, hc, hurl, hsent⟩ := Service.sent_of_outcome hx
        have hurls : (p.search index r form reply (Server.afterUses past)).2.map SentRequest.url
            = [String.ofList url.toChars] := by
          rw [hsearch]
          exact congrArg (List.map SentRequest.url) hsent
        exact ⟨past, _, [], s, index, r, j, rfl,
          ⟨p, form, reply, rfl, hp, hx, c, url, hc, hurl, hurls⟩, rfl,
          Service.decode_write hx⟩
    | _ => exact h.of_kept _ fun _ _ => id

/-- **Every use keeps the invariant.** -/
theorem afterUse (h : Sourced past (Server.afterUses past)) (u : Use) :
    Sourced (past ++ [u]) ((Server.afterUses past).afterUse u) := by
  cases u with
  | search p index r form reply => exact h.search p index r form reply
  | invalidate p index => exact h.of_kept _ fun _ _ => Party.get?_of_invalidate
  | expiry k => exact h.of_kept _ fun _ _ ht => (Store.get?_of_erase ht).2
  | outage o => exact h.of_kept _ fun _ _ => id

end Sourced

/-- **All that is kept after any uses was fetched by one of them.** -/
theorem sourced_afterUses (uses : List Use) : Sourced uses (Server.afterUses uses) := by
  induction uses using List.reverseRecOn with
  | nil =>
    intro key t ht
    cases ht
  | append_singleton past u ih =>
    rw [Server.afterUses_append]
    exact ih.afterUse u

/-- Whether two searchers ask the same service for the same version. -/
def Searcher.AsksSame (s s' : Searcher) : Prop :=
  s.connection.service.baseUrl = s'.connection.service.baseUrl
    ∧ s.connection.service.apiVersion = s'.connection.service.apiVersion

/-- **An answer that is found was fetched by an earlier search for the same**, on the same index and
    with the same fingerprint, from the service of that search. So it comes from the service and the
    version that the finder asks, if all who searched for it before ask these. -/
theorem found_was_fetched {past : List Use} {p : Party} {s : Searcher} (hp : p.searcher? = some s)
    {index : Value} {r : SearchRequest} {v : Value}
    (hfound : s.lookUp (Server.afterUses past) (r.key index.plain) = .ok v)
    (hv : v.isNull = false) (form : DocumentForm) (reply : Reply) :
    p.search index r form reply (Server.afterUses past) = (Server.afterUses past, [])
      ∧ ∃ before u after s' index' r' j, past = before ++ u :: after
        ∧ u.Fetches (Server.afterUses before) s' index' r' j ∧ v = j.toValue
        ∧ index'.plain = index.plain
        ∧ SearchRequest.fingerprint r'.hashedText = SearchRequest.fingerprint r.hashedText
        ∧ ((∀ q s₂ index₂ r₂ form₂ reply₂, Use.search q index₂ r₂ form₂ reply₂ ∈ past →
            q.searcher? = some s₂ → r₂.key index₂.plain = r.key index.plain → s₂.AsksSame s) →
          s'.AsksSame s) := by
  constructor
  · rw [Party.search_eq hp, Searcher.fetch_of_known hfound hv]
  · -- what is found stands in the store, hence comes from an earlier use
    obtain ⟨t, ht, hvalue⟩ := Searcher.exists_text_of_lookUp hfound hv
    obtain ⟨before, u, after, s', index', r', j, hpast, hfetches, hkey, hj⟩ :=
      sourced_afterUses past _ t ht
    obtain ⟨hindex, hprint⟩ := SearchRequest.key_eq_iff_fingerprint.mp hkey
    have hsource : v = j.toValue := Except.ok.inj (hvalue.symm.trans hj)
    refine ⟨before, u, after, s', index', r', j, hpast, hfetches, hsource, hindex, hprint,
      fun hsame => ?_⟩
    -- that use was of a searcher with the same key, and such searchers ask the same service
    obtain ⟨q, form', reply', rfl, hq, -⟩ := hfetches
    have hmem : Use.search q index' r' form' reply' ∈ past := by
      rw [hpast]
      exact List.mem_append_right _ List.mem_cons_self
    exact hsame q s' index' r' form' reply' hmem hq hkey

/-- Two searchers of one service: the second one finds what the first one has fetched. -/
theorem found_was_fetched_before :
    let a : Searcher := ⟨.ofService ⟨"https://a.search.windows.net", .null, .text "2020-06-30",
      .int 30⟩, some ⟨.null, true⟩, .int 300⟩
    let b : Searcher := ⟨.ofService ⟨"https://a.search.windows.net", .null, .text "2020-06-30",
      .int 60⟩, some ⟨.null, true⟩, .int 600⟩
    let r : SearchRequest := ⟨none, none, [], none, none, [], false⟩
    let first : Use := .search (.searcher a) (.text "docs") r .plain (.answered 200 [0x7b, 0x7d])
    (Party.search (.searcher b) (.text "docs") r .plain (.failed "down")
        (Server.afterUses [first])).2 = []
      ∧ ∃ s' index' r' j, first.Fetches (Server.afterUses []) s' index' r' j ∧ s'.AsksSame b := by
  intro a b r first
  have hknown : (b.lookUp (Server.afterUses [first]) (r.key (Value.text "docs").plain)).toOption.any
      (fun v => !v.isNull) = true := by decide +kernel
  cases hv : b.lookUp (Server.afterUses [first]) (r.key (Value.text "docs").plain) with
  | error e =>
    rw [hv] at hknown
    cases hknown
  | ok v =>
    have hnull : v.isNull = false := by
      rw [hv] at hknown
      exact Bool.not_eq_eq_eq_not.mp hknown
    have hb : (Party.searcher b).searcher? = some b := rfl
    obtain ⟨hsearch, before, u, after, s', index', r', j, hpast, hfetches, -, -, -, hsame⟩ :=
      found_was_fetched hb hv hnull .plain (.failed "down")
    -- there is only one earlier use
    cases before with
    | cons w before => exact absurd (List.cons.inj hpast).2 (by simp)
    | nil =>
      obtain ⟨hu, -⟩ := List.cons.inj hpast
      rw [← hu] at hfetches
      refine ⟨congrArg Prod.snd hsearch, s', index', r', j, hfetches, hsame ?_⟩
      intro q s₂ index₂ r₂ form₂ reply₂ hmem hq _
      obtain ⟨rfl, -⟩ := Use.search.inj (List.mem_singleton.mp hmem)
      cases hq
      exact ⟨rfl, rfl⟩

/-- Searchers of another service, or for another version, find it as well and send nothing, though
    their own services have never been asked. -/
theorem found_across_services :
    let a : Searcher := ⟨.ofService ⟨"https://a.search.windows.net", .null, .text "2020-06-30",
      .int 30⟩, some ⟨.null, true⟩, .int 300⟩
    let b : Searcher := ⟨.ofService ⟨"https://b.search.windows.net", .null, .text "2020-06-30",
      .int 30⟩, some ⟨.null, true⟩, .int 300⟩
    let c : Searcher := ⟨.ofService ⟨"https://a.search.windows.net", .null, .text "2021-04-30",
      .int 30⟩, some ⟨.null, true⟩, .int 300⟩
    let r : SearchRequest := ⟨none, none, [], none, none, [], false⟩
    -- the answer is `{"value":[{}]}`
    let server := Server.afterUses [.search (.searcher a) (.text "docs") r .plain (.answered 200
      [0x7b, 0x22, 0x76, 0x61, 0x6c, 0x75, 0x65, 0x22, 0x3a, 0x5b, 0x7b, 0x7d, 0x5d, 0x7d])]
    let x := b.search (.text "docs") r .plain (.failed "down") server
    let y := c.search (.text "docs") r .plain (.failed "down") server
    ¬ a.AsksSame b ∧ ¬ a.AsksSame c
      ∧ x.sent.length = 0 ∧ x.result.toOption.map (fun o => o.documents.length) = some 1
      ∧ y.sent.length = 0 ∧ y.result.toOption.map (fun o => o.documents.length) = some 1 := by
  intro a b c r server x y
  refine ⟨fun h => absurd h.1 (by decide), fun h => ?_, by decide +kernel⟩
  have hversions : Value.text "2020-06-30" = Value.text "2021-04-30" := h.2
  exact absurd (Value.text.inj hversions) (by decide)

end IndexSearch
