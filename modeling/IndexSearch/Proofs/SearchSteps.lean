import IndexSearch.Proofs.ServiceAnswers

namespace IndexSearch

open Number

/-!
# One search

What one search does: which requests are sent, what comes of them, and what the server keeps
afterwards. A search asks the server first what is known, then the service, and the server may fail
at either end; `Searcher.Course` has a case for each way that this can go. A search without a link
goes the same ways as one that finds nothing and keeps nothing.

* `Searcher.search_eq`, `Searcher.fetch_course` — a search, and the ways that it can go;
* `Searcher.search_of_not_linked` — a search without a memory;
* `Searcher.search_known` — a search whose answer is kept;
* `Searcher.search_unknown` — a search whose answer is not kept.
-/

/-! ### Steps in sequence -/

namespace SearchM

variable {α β : Type} {st st₁ st₂ : SearchState}

/-- After a step that succeeds the next one goes on from its state. -/
theorem bind_of_ok {x : SearchM α} {f : α → SearchM β} {a : α} (h : x st = (.ok a, st₁)) :
    (x >>= f) st = f a st₁ := by
  show ExceptT.bindCont f (x st).1 (x st).2 = _
  rw [h]
  rfl

/-- After a step that fails nothing more is done. -/
theorem bind_of_error {x : SearchM α} {f : α → SearchM β} {e : SearchFailure}
    (h : x st = (.error e, st₁)) : (x >>= f) st = (.error e, st₁) := by
  show ExceptT.bindCont f (x st).1 (x st).2 = _
  rw [h]
  rfl

/-- What is known is not computed. -/
theorem remembered_of_known {lookUp compute : SearchM Value} {keep : Value → SearchM Unit}
    {v : Value} (h : lookUp st = (.ok v, st₁)) (hv : v.isNull = false) :
    remembered lookUp compute keep st = (.ok v, st₁) := by
  rw [remembered, bind_of_ok h, hv]
  rfl

/-- What is not known is computed, and an error is the end of it. -/
theorem remembered_of_error {lookUp compute : SearchM Value} {keep : Value → SearchM Unit}
    {e : SearchFailure} (h : lookUp st = (.ok .null, st₁))
    (hcompute : compute st₁ = (.error e, st₂)) :
    remembered lookUp compute keep st = (.error e, st₂) := by
  rw [remembered, bind_of_ok h]
  exact bind_of_error hcompute

/-- Null is computed and not kept. -/
theorem remembered_of_null {lookUp compute : SearchM Value} {keep : Value → SearchM Unit}
    (h : lookUp st = (.ok .null, st₁)) (hcompute : compute st₁ = (.ok .null, st₂)) :
    remembered lookUp compute keep st = (.ok .null, st₂) := by
  rw [remembered, bind_of_ok h]
  exact bind_of_ok hcompute

/-- What is computed is kept. -/
theorem remembered_of_computed {lookUp compute : SearchM Value} {keep : Value → SearchM Unit}
    {v : Value} {st₃ : SearchState} (h : lookUp st = (.ok .null, st₁))
    (hcompute : compute st₁ = (.ok v, st₂)) (hv : v.isNull = false)
    (hkeep : keep v st₂ = (.ok (), st₃)) :
    remembered lookUp compute keep st = (.ok v, st₃) := by
  rw [remembered, bind_of_ok h]
  show (compute >>= fun v => _) st₁ = _
  rw [bind_of_ok hcompute, hv]
  exact bind_of_ok hkeep

/-- What is known cannot be told, and the error is the end of it. -/
theorem remembered_of_unread {lookUp compute : SearchM Value} {keep : Value → SearchM Unit}
    {e : SearchFailure} (h : lookUp st = (.error e, st₁)) :
    remembered lookUp compute keep st = (.error e, st₁) := by
  rw [remembered]
  exact bind_of_error h

/-- What is computed cannot be kept, and the error is the end of it. -/
theorem remembered_of_unkept {lookUp compute : SearchM Value} {keep : Value → SearchM Unit}
    {v : Value} {e : SearchFailure} {st₃ : SearchState} (h : lookUp st = (.ok .null, st₁))
    (hcompute : compute st₁ = (.ok v, st₂)) (hv : v.isNull = false)
    (hkeep : keep v st₂ = (.error e, st₃)) :
    remembered lookUp compute keep st = (.error e, st₃) := by
  rw [remembered, bind_of_ok h]
  show (compute >>= fun v => _) st₁ = _
  rw [bind_of_ok hcompute, hv]
  exact bind_of_error hkeep

/-- What comes of steps is told by the state in which they end. -/
theorem outcome_eq {steps : SearchM α} {c : Connection} {s : Server} {x : Except SearchFailure α}
    (h : steps ⟨c, s, []⟩ = (x, st)) :
    steps.outcome c s = ⟨x, st.connection, st.server, st.sent⟩ := by
  unfold SearchM.outcome ExceptT.run StateT.run
  rw [h]

end SearchM

/-! ### What a search works with -/

/-- Only null is null. -/
theorem Value.eq_null_of_isNull {v : Value} (h : v.isNull = true) : v = .null := by
  cases v <;> first | rfl | cases h

namespace Searcher

/-- What is known under a key, null if nothing is. -/
def lookUp (s : Searcher) (server : Server) (key : String) : Except LinkError Value :=
  match s.link with
  | none => .ok .null
  | some l => l.get server key

/-- The server after a value was kept under a key, if values are kept. -/
def keep (s : Searcher) (server : Server) (key : String) (v : Value) : Except LinkError Server :=
  match s.link with
  | none => .ok server
  | some l => l.set server key v s.ttl

/-- The server once the text of an answer is under a key. -/
def withAnswer (s : Searcher) (server : Server) (key : String) (j : Json) : Server :=
  { server with store := Store.put key ⟨j.write Json.spaced, s.ttl⟩ server.store }

/-- The body of the answer to a request on an index, with what it takes to have it. -/
def fetch (s : Searcher) (index : Value) (r : SearchRequest) (reply : Reply) (server : Server) :
    SearchOutcome Value :=
  SearchM.outcome (s.body index r reply) s.connection server

/-- Looks a key up as a step of a search. -/
def lookUpStep (s : Searcher) (key : String) : SearchM Value := fun st =>
  ((s.lookUp st.server key).mapError .memory, st)

/-- Keeps a value as a step of a search. -/
def keepStep (s : Searcher) (key : String) (v : Value) : SearchM Unit := fun st =>
  match s.keep st.server key v with
  | .ok server => (.ok (), { st with server })
  | .error e => (.error (.memory e), st)

end Searcher

/-! ### What a link does -/

namespace Searcher

/-- Whether a searcher has a connected link to a server. -/
def IsLinked (s : Searcher) : Prop := ∃ l, s.link = some l ∧ l.connected = true

variable {s : Searcher} {server : Server}

/-- Over a connected link what is known is what the server has under the key. -/
theorem lookUp_of_linked (h : s.IsLinked) (key : String) : s.lookUp server key =
    match server.failure? .get, Store.get? key server.store with
    | some e, _ => .error (.server e)
    | none, none => .ok .null
    | none, some t => Link.decode t.text := by
  obtain ⟨l, hlink, hconnected⟩ := h
  simp only [lookUp, hlink, Link.get, hconnected, Server.get]
  cases server.failure? .get with
  | some e => rfl
  | none => cases Store.get? key server.store <;> rfl

/-- Over a connected link an answer is kept as its text, which it has unless a whole number in it is
    too long. -/
theorem keep_of_linked (h : s.IsLinked) (key : String) {j : Json} (hj : j.Readable isShort) :
    s.keep server key j.toValue =
      match server.failure? .set with
      | some e => .error (.server e)
      | none => .ok (s.withAnswer server key j) := by
  obtain ⟨l, hlink, hconnected⟩ := h
  simp only [withAnswer, keep, hlink, Link.set, hconnected, Link.textOfValue,
    Json.toJson_toValue j hj, Server.set, Except.map]
  cases server.failure? .set <;> rfl

/-- Without a connected link nothing is known, and keeping changes nothing. -/
theorem lookUp_and_keep_of_not_linked (h : ¬ s.IsLinked) (key : String) (v : Value) :
    s.lookUp server key = .ok .null ∧ s.keep server key v = .ok server := by
  unfold lookUp keep
  split
  · exact ⟨rfl, rfl⟩
  · rename_i l hlink
    have hconnected : l.connected = false := Bool.eq_false_iff.mpr fun hc => h ⟨l, hlink, hc⟩
    rw [Link.get, Link.set, hconnected]
    exact ⟨rfl, rfl⟩

/-- What is kept of an answer is known afterwards, if the server says what it has. -/
theorem lookUp_withAnswer (h : s.IsLinked) (hget : server.failure? .get = none) (key : String)
    {j : Json} (hread : Link.decode (j.write Json.spaced) = .ok j.toValue) :
    s.lookUp (s.withAnswer server key j) key = .ok j.toValue := by
  have hsame : (s.withAnswer server key j).failure? .get = server.failure? .get := rfl
  have hfound : Store.get? key (s.withAnswer server key j).store
      = some ⟨j.write Json.spaced, s.ttl⟩ := Store.get?_put_self _ _ _
  rw [lookUp_of_linked h, hsame, hget, hfound]
  exact hread

/-- What is known stands in a text that the server has under the key. -/
theorem exists_text_of_lookUp {key : String} {v : Value} (h : s.lookUp server key = .ok v)
    (hv : v.isNull = false) :
    ∃ t, Store.get? key server.store = some t ∧ Link.decode t.text = .ok v := by
  by_cases hlinked : s.IsLinked
  · rw [lookUp_of_linked hlinked] at h
    split at h
    · cases h
    · cases h
      cases hv
    · rename_i t _ hfound
      exact ⟨t, hfound, h⟩
  · cases h.symm.trans (lookUp_and_keep_of_not_linked hlinked key v).1
    cases hv

/-- Keeping an answer puts at most its text under its key. -/
theorem get?_of_keep {server' : Server} {key k : String} {j : Json} {t : StoredText}
    (hj : j.Readable isShort) (h : s.keep server key j.toValue = .ok server')
    (ht : Store.get? k server'.store = some t) :
    Store.get? k server.store = some t ∨ (k = key ∧ t = ⟨j.write Json.spaced, s.ttl⟩) := by
  -- only a linked searcher writes, and only at one key
  by_cases hlinked : s.IsLinked
  · rw [keep_of_linked hlinked _ hj] at h
    split at h
    · cases h
    · cases h
      by_cases hk : k = key
      · subst hk
        rw [withAnswer, Store.get?_put_self] at ht
        exact .inr ⟨rfl, (Option.some.inj ht).symm⟩
      · rw [withAnswer, Store.get?_put_of_ne hk] at ht
        exact .inl ht
  · rw [(lookUp_and_keep_of_not_linked hlinked key j.toValue).2] at h
    cases h
    exact .inl ht

end Searcher

/-! ### The ways of a search -/

/-- The results in an answer, or the error that comes instead of one. -/
def shaped (form : DocumentForm) : Except SearchError Json → Except SearchFailure SearchResults
  | .ok j => (SearchResults.ofValue form j.toValue).mapError .answer
  | .error e => .error (.exchange e)

/-- The results in the body of an answer, or the error that comes instead of them. -/
def taken (form : DocumentForm) (body : Except SearchFailure Value) :
    Except SearchFailure SearchResults :=
  body >>= fun v => (SearchResults.ofValue form v).mapError .answer

namespace Searcher

section

variable (s : Searcher) (index : Value) (r : SearchRequest) (reply : Reply) (server : Server)

/-- **How the body of an answer is come by.** The server is asked for it first, and the service if
    nothing is known; what it answers is kept. -/
inductive Course : SearchOutcome Value → Prop
  /-- The server does not say what is known. -/
  | unread {e : LinkError} (hlookUp : s.lookUp server (r.key index.plain) = .error e) :
      Course ⟨.error (.memory e), s.connection, server, []⟩
  /-- The answer is known. -/
  | known {v : Value} (hlookUp : s.lookUp server (r.key index.plain) = .ok v)
      (hv : v.isNull = false) : Course ⟨.ok v, s.connection, server, []⟩
  /-- Nothing is known, and the service does not answer. -/
  | unanswered {e : SearchError} (hlookUp : s.lookUp server (r.key index.plain) = .ok .null)
      (hx : (s.connection.service.exchange index r reply).outcome = .error e) :
      Course ⟨.error (.exchange e), (s.connection.search index r reply).2, server,
        (s.connection.service.exchange index r reply).sent⟩
  /-- Nothing is known, and the service answers with null. -/
  | null (hlookUp : s.lookUp server (r.key index.plain) = .ok .null)
      (hx : (s.connection.service.exchange index r reply).outcome = .ok .null) :
      Course ⟨.ok .null, (s.connection.search index r reply).2, server,
        (s.connection.service.exchange index r reply).sent⟩
  /-- Nothing is known, and the server does not take what the service answers. -/
  | unkept {j : Json} {e : LinkError}
      (hlookUp : s.lookUp server (r.key index.plain) = .ok .null)
      (hx : (s.connection.service.exchange index r reply).outcome = .ok j) (hj : j ≠ .null)
      (hkeep : s.keep server (r.key index.plain) j.toValue = .error e) :
      Course ⟨.error (.memory e), (s.connection.search index r reply).2, server,
        (s.connection.service.exchange index r reply).sent⟩
  /-- Nothing is known, and the server takes what the service answers. -/
  | kept {j : Json} {server' : Server}
      (hlookUp : s.lookUp server (r.key index.plain) = .ok .null)
      (hx : (s.connection.service.exchange index r reply).outcome = .ok j) (hj : j ≠ .null)
      (hkeep : s.keep server (r.key index.plain) j.toValue = .ok server') :
      Course ⟨.ok j.toValue, (s.connection.search index r reply).2, server',
        (s.connection.service.exchange index r reply).sent⟩

variable {s index r reply server} {form : DocumentForm}

/-- A search takes the results from the body of an answer. -/
theorem search_eq : s.search index r form reply server =
    ⟨taken form (s.fetch index r reply server).result,
      (s.fetch index r reply server).connection, (s.fetch index r reply server).server,
      (s.fetch index r reply server).sent⟩ := by
  rcases h : s.body index r reply ⟨s.connection, server, []⟩ with ⟨_ | v, st⟩
  · rw [search, SearchM.outcome_eq (SearchM.bind_of_error h), fetch, SearchM.outcome_eq h]
    rfl
  · rw [search, SearchM.outcome_eq ((SearchM.bind_of_ok h).trans rfl), fetch,
      SearchM.outcome_eq h]
    rfl

/-- Without a link it is as if nothing were known and everything were kept. -/
theorem body_eq : s.body index r reply = remembered (s.lookUpStep (r.key index.plain))
    (SearchM.ask index r reply) (s.keepStep (r.key index.plain)) := by
  cases hlink : s.link with
  | some l =>
    -- with a store, the steps are those of its link
    have hlook : s.lookUpStep (r.key index.plain) = SearchM.lookUp l (r.key index.plain) := by
      funext st
      rw [lookUpStep, lookUp, hlink, SearchM.lookUp]
    have hkeepStep : s.keepStep (r.key index.plain)
        = SearchM.keep l (r.key index.plain) s.ttl := by
      funext v st
      cases hset : l.set st.server (r.key index.plain) v s.ttl with
      | error e => simp only [keepStep, keep, hlink, SearchM.keep, hset]
      | ok server => simp only [keepStep, keep, hlink, SearchM.keep, hset]
    rw [body, hlink, hlook, hkeepStep]
  | none =>
    -- without one, looking up finds nothing and keeping does nothing, so that only the question is
    -- left
    have hlook (st : SearchState) : s.lookUpStep (r.key index.plain) st = (.ok .null, st) := by
      rw [lookUpStep, lookUp, hlink]
      rfl
    have hkeepStep (v : Value) (st : SearchState) :
        s.keepStep (r.key index.plain) v st = (.ok (), st) := by
      rw [keepStep, keep, hlink]
    have hbody : s.body index r reply = SearchM.ask index r reply := by
      rw [body, hlink]
    rw [hbody]
    funext st
    rcases hask : SearchM.ask index r reply st with ⟨e | v, st'⟩
    · rw [SearchM.remembered_of_error (hlook st) hask]
    · cases hv : v.isNull with
      | false =>
        rw [SearchM.remembered_of_computed (hlook st) hask hv (hkeepStep v st')]
      | true =>
        obtain rfl := Value.eq_null_of_isNull hv
        rw [SearchM.remembered_of_null (hlook st) hask]

/-- What asking the service leaves behind: the connection, and the requests that are sent. -/
def asked (s : Searcher) (index : Value) (r : SearchRequest) (reply : Reply) (server : Server) :
    SearchState :=
  ⟨(s.connection.search index r reply).2, server,
    (s.connection.service.exchange index r reply).sent⟩

/-- The service is asked and answers. -/
theorem ask_of_ok {j : Json} (h : (s.connection.service.exchange index r reply).outcome = .ok j) :
    SearchM.ask index r reply ⟨s.connection, server, []⟩
      = (.ok j.toValue, s.asked index r reply server) := by
  simp only [SearchM.ask, Connection.search, h, List.nil_append]
  rfl

/-- The service is asked and does not answer. -/
theorem ask_of_error {e : SearchError}
    (h : (s.connection.service.exchange index r reply).outcome = .error e) :
    SearchM.ask index r reply ⟨s.connection, server, []⟩
      = (.error (.exchange e), s.asked index r reply server) := by
  simp only [SearchM.ask, Connection.search, h, List.nil_append]
  rfl

/-- Looking a key up changes nothing. -/
theorem lookUpStep_eq (key : String) (st : SearchState) :
    s.lookUpStep key st = ((s.lookUp st.server key).mapError .memory, st) := rfl

/-- What is known is the body of the answer. -/
theorem fetch_of_known {v : Value} (hlookUp : s.lookUp server (r.key index.plain) = .ok v)
    (hv : v.isNull = false) :
    s.fetch index r reply server = ⟨.ok v, s.connection, server, []⟩ := by
  have hlook := s.lookUpStep_eq (r.key index.plain) ⟨s.connection, server, []⟩
  rw [hlookUp] at hlook
  rw [fetch, body_eq, SearchM.outcome_eq (SearchM.remembered_of_known hlook hv)]

variable (s index r reply server) in
/-- **The body of an answer is come by in one of the ways that there are.** -/
theorem fetch_course : Course s index r reply server (s.fetch index r reply server) := by
  have hlook := s.lookUpStep_eq (r.key index.plain) ⟨s.connection, server, []⟩
  -- the course is found by what is looked up, then by the answer, then by whether it can be kept
  cases hlookUp : s.lookUp server (r.key index.plain) with
  | error e =>
    rw [hlookUp] at hlook
    rw [fetch, body_eq, SearchM.outcome_eq (SearchM.remembered_of_unread hlook)]
    exact .unread hlookUp
  | ok v =>
    cases hv : v.isNull with
    | false =>
      rw [fetch_of_known hlookUp hv]
      exact .known hlookUp hv
    | true =>
      obtain rfl := Value.eq_null_of_isNull hv
      rw [hlookUp] at hlook
      rw [fetch, body_eq]
      cases hx : (s.connection.service.exchange index r reply).outcome with
      | error e =>
        rw [SearchM.outcome_eq (SearchM.remembered_of_error hlook (ask_of_error hx))]
        exact .unanswered hlookUp hx
      | ok j =>
        by_cases hj : j = .null
        · -- null is an answer to the caller, but none that is kept
          subst hj
          rw [SearchM.outcome_eq (SearchM.remembered_of_null hlook (ask_of_ok hx))]
          exact .null hlookUp hx
        · have hkeepStep : s.keepStep (r.key index.plain) j.toValue (s.asked index r reply server)
              = match s.keep server (r.key index.plain) j.toValue with
                | .ok server' => (.ok (), s.asked index r reply server')
                | .error e => (.error (.memory e), s.asked index r reply server) := rfl
          cases hkeep : s.keep server (r.key index.plain) j.toValue with
          | error e =>
            rw [hkeep] at hkeepStep
            rw [SearchM.outcome_eq (SearchM.remembered_of_unkept hlook (ask_of_ok hx)
              (Json.isNull_toValue_of_ne hj) hkeepStep)]
            exact .unkept hlookUp hx hj hkeep
          | ok server' =>
            rw [hkeep] at hkeepStep
            rw [SearchM.outcome_eq (SearchM.remembered_of_computed hlook (ask_of_ok hx)
              (Json.isNull_toValue_of_ne hj) hkeepStep)]
            exact .kept hlookUp hx hj hkeep

end

/-! ### Searches over a server that answers -/

variable {s : Searcher} {index : String} {r : SearchRequest} {form : DocumentForm} {reply : Reply}
  {server : Server}

/-- **A search without a memory** sends what the exchange sends and takes the results from its
    answer. A link that is not connected is no memory. -/
theorem search_of_not_linked {index : Value} (h : ¬ s.IsLinked) :
    s.search index r form reply server =
      ⟨shaped form (s.connection.service.exchange index r reply).outcome,
        (s.connection.search index r reply).2, server,
        (s.connection.service.exchange index r reply).sent⟩ := by
  have hnull : s.lookUp server (r.key index.plain) = .ok .null :=
    (lookUp_and_keep_of_not_linked h _ .null).1
  rw [search_eq]
  have hcourse := fetch_course s index r reply server
  generalize s.fetch index r reply server = o at hcourse ⊢
  -- a searcher that is not linked finds nothing and keeps nothing, which leaves three courses
  cases hcourse with
  | unread hlookUp => cases hlookUp.symm.trans hnull
  | known hlookUp hv =>
    cases hlookUp.symm.trans hnull
    cases hv
  | unanswered _ hx =>
    rw [hx]
    rfl
  | null _ hx =>
    rw [hx]
    rfl
  | unkept _ _ _ hkeep => cases hkeep.symm.trans (lookUp_and_keep_of_not_linked h _ _).2
  | kept _ hx _ hkeep =>
    cases hkeep.symm.trans (lookUp_and_keep_of_not_linked h _ _).2
    rw [hx]
    rfl

/-- Without a link a searcher is not linked. -/
theorem not_isLinked_of_none (hlink : s.link = none) : ¬ s.IsLinked := by
  rintro ⟨l, hl, -⟩
  cases hlink.symm.trans hl

/-- A search without a link is one without a memory. -/
theorem search_unlinked (hlink : s.link = none) :
    s.search (.text index) r form reply server =
      ⟨shaped form (s.connection.service.exchange (.text index) r reply).outcome,
        (s.connection.search (.text index) r reply).2, server,
        (s.connection.service.exchange (.text index) r reply).sent⟩ :=
  search_of_not_linked (not_isLinked_of_none hlink)

variable {l : Link} (hlink : s.link = some l) (hconnected : l.connected = true)
  (hserver : server.outage = none)

include hlink hconnected hserver

/-- **A search whose answer is kept** sends nothing and takes the results from what is kept. -/
theorem search_known {t : StoredText} {v : Value}
    (hfound : Store.get? (r.key index) server.store = some t) (hread : Link.decode t.text = .ok v)
    (hnull : v.isNull = false) :
    s.search (.text index) r form reply server =
      ⟨(SearchResults.ofValue form v).mapError .answer, s.connection, server, []⟩ := by
  have hlookUp : s.lookUp server (r.key index) = .ok v := by
    rw [lookUp_of_linked ⟨l, hlink, hconnected⟩, Server.failure?_eq_none hserver, hfound]
    exact hread
  have hfetch : s.fetch (.text index) r reply server = _ := fetch_of_known hlookUp hnull
  rw [search_eq, hfetch]
  rfl

/-- **A search whose answer is not kept** is one without a memory, and the answer is kept afterwards
    if there is one. -/
theorem search_unknown (hfound : Store.get? (r.key index) server.store = none) :
    s.search (.text index) r form reply server =
      ⟨shaped form (s.connection.service.exchange (.text index) r reply).outcome,
        (s.connection.search (.text index) r reply).2,
        match s.connection.service.answer? index r reply with
        | none => server
        | some j => { server with
          store := Store.put (r.key index) ⟨j.write Json.spaced, s.ttl⟩ server.store },
        (s.connection.service.exchange (.text index) r reply).sent⟩ := by
  have hnull : s.lookUp server (r.key index) = .ok .null := by
    rw [lookUp_of_linked ⟨l, hlink, hconnected⟩, Server.failure?_eq_none hserver, hfound]
  rw [search_eq]
  have hcourse := fetch_course s (.text index) r reply server
  generalize s.fetch (.text index) r reply server = o at hcourse ⊢
  -- the key is unknown and the server is up, so an answer other than null is kept
  cases hcourse with
  | unread hlookUp => cases hlookUp.symm.trans hnull
  | known hlookUp hv =>
    cases hlookUp.symm.trans hnull
    cases hv
  | unanswered _ hx =>
    rw [Service.answer?, hx]
    rfl
  | null _ hx =>
    rw [Service.answer?, hx]
    rfl
  | unkept _ hx _ hkeep =>
    have hj := Service.readable_of_outcome hx
    rw [keep_of_linked ⟨l, hlink, hconnected⟩ _ hj, Server.failure?_eq_none hserver] at hkeep
    cases hkeep
  | kept _ hx hne hkeep =>
    have hj := Service.readable_of_outcome hx
    rw [keep_of_linked ⟨l, hlink, hconnected⟩ _ hj, Server.failure?_eq_none hserver] at hkeep
    cases hkeep
    rw [Service.answer?_eq_some_iff_outcome.mpr ⟨hx, hne⟩, hx]
    rfl

end Searcher

end IndexSearch
