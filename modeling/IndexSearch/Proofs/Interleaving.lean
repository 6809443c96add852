import IndexSearch.Proofs.RememberedAnswers

namespace IndexSearch

open Text

/-!
# Searches and invalidations side by side

Any number of searches and invalidations may be under way at a time, on one key-value server. Each
is taken apart into the acts between which others can come: a search looks its answer up, sends its
request, receives the answer after the service has produced it, keeps it, and finishes; an
invalidation lists the keys and removes them one by one. A `World` is the server, which reads
patterns in its own way, with all calls that have been made so far, and a run of it is a list of
events in any order that the calls allow.

* `Act`, `Stage`, `OpenCall` — what a call can do, how far it has come, and both together;
* `World`, `Event`, `World.run` — all calls on one server, and their runs;
* `World.run_search`, `World.run_invalidate` — a call that no other one comes between is the call
  made at once.
-/

/-! ### One call -/

/-- What a call does between which other calls can act. -/
inductive Act where
  /-- A search asks the server for the answer. -/
  | look
  /-- A search sends its request. -/
  | send
  /-- The service makes its answer to a search. -/
  | produce
  /-- A search receives the answer of the service. -/
  | receive
  /-- A search has its answer kept. -/
  | keep
  /-- An invalidation lists the keys. -/
  | list
  /-- An invalidation removes the first of the keys that are left. -/
  | remove
  /-- The call returns. -/
  | finish
deriving DecidableEq

/-- What a call returns. -/
inductive Returned where
  /-- A search has the body of an answer, from which the results are taken. -/
  | body (x : Except SearchFailure Value)
  /-- An invalidation has the number of the keys removed. -/
  | count (x : Except LinkError Nat)

/-- How far a call has come. -/
inductive Stage where
  /-- The server is to be asked. -/
  | looking
  /-- Nothing is known: the service is to be asked. -/
  | sending
  /-- The service is to answer. -/
  | asking
  /-- The answer is to be received. -/
  | replied
  /-- The answer is to be kept. -/
  | keeping
  /-- The keys are to be listed. -/
  | listing
  /-- Keys are to be removed, after others. -/
  | removing (keys : List String) (n : Nat)
  /-- The call is to return. -/
  | returning (x : Returned)
  /-- The call has returned. -/
  | returned (x : Returned)

/-- A call that a searcher has made. -/
structure OpenCall where
  /-- The searcher. -/
  searcher : Searcher
  /-- The call. -/
  call : Call
  /-- How far it has come. -/
  stage : Stage

/-- How a call begins. -/
def Call.start : Call → Stage
  | search _ _ _ _ => .looking
  | invalidate _ => .listing

/-- The answer of the service to a search. -/
def Searcher.answer (s : Searcher) (index : String) (r : SearchRequest) (reply : Reply) :
    Except SearchError Json :=
  (s.connection.service.exchange (.text index) r reply).outcome

/-- An act of a search on the server, if it is the one that comes next. -/
def Searcher.searchAct (s : Searcher) (index : String) (r : SearchRequest) (reply : Reply)
    (server : Server) : Stage → Act → Option (Stage × Server)
  | .looking, .look =>
    match s.lookUp server (r.key index) with
    | .error e => some (.returning (.body (.error (.memory e))), server)
    | .ok v => some (if v.isNull then .sending else .returning (.body (.ok v)), server)
  | .sending, .send =>
    match (s.connection.service.exchange (.text index) r reply).sent with
    | [] =>
      some (.returning (.body (((s.answer index r reply).map Json.toValue).mapError .exchange)),
        server)
    | _ => some (.asking, server)
  | .asking, .produce => some (.replied, server)
  | .replied, .receive =>
    match s.answer index r reply with
    | .error e => some (.returning (.body (.error (.exchange e))), server)
    | .ok .null => some (.returning (.body (.ok .null)), server)
    | .ok _ => some (.keeping, server)
  | .keeping, .keep =>
    match s.answer index r reply with
    | .error _ => none
    | .ok j =>
      match s.keep server (r.key index) j.toValue with
      | .error e => some (.returning (.body (.error (.memory e))), server)
      | .ok server => some (.returning (.body (.ok j.toValue)), server)
  | .returning x, .finish => some (.returned x, server)
  | _, _ => none

/-- An act of an invalidation on the server, if it is the one that comes next. -/
def Searcher.invalidateAct (s : Searcher) (index : String) (m : Matcher) (server : Server) :
    Stage → Act → Option (Stage × Server)
  | .listing, .list =>
    match s.link with
    | none => some (.returning (.count (.ok 0)), server)
    | some l =>
      if !l.connected then some (.returning (.count (.ok 0)), server)
      else match server.scan (SearchRequest.indexPattern index) m with
        | .error e => some (.returning (.count (.error (.server e))), server)
        | .ok keys => some (.removing keys 0, server)
  | .removing (k :: rest) n, .remove =>
    match server.delete k with
    | .error e => some (.returning (.count (.error (.server e))), server)
    | .ok (n', server) => some (.removing rest (n + n'), server)
  | .removing [] n, .finish => some (.returned (.count (.ok n)), server)
  | .returning x, .finish => some (.returned x, server)
  | _, _ => none

namespace OpenCall

/-- An act of a call on the server, if it is the one that comes next. -/
def act (t : OpenCall) (m : Matcher) (server : Server) (a : Act) : Option (OpenCall × Server) :=
  let next := match t.call with
    | .search index r _ reply => t.searcher.searchAct index r reply server t.stage a
    | .invalidate index => t.searcher.invalidateAct index m server t.stage a
  next.map fun (stage, server) => ({ t with stage }, server)

/-- The acts of a call that no other one comes between. -/
def acts (t : OpenCall) (m : Matcher) (server : Server) (as : List Act) :
    Option (OpenCall × Server) :=
  as.foldlM (fun (t, server) a => t.act m server a) (t, server)

end OpenCall

/-! ### All calls -/

/-- A key-value server with all calls that have been made, the first one first. -/
structure World where
  /-- How the server reads patterns. -/
  matcher : Matcher
  /-- The server. -/
  server : Server
  /-- The calls. -/
  calls : List OpenCall

/-- What can happen next. -/
inductive Event where
  /-- A searcher makes a call, which is given the next number. -/
  | begin (id : Nat) (s : Searcher) (c : Call)
  /-- The call of a number does what comes next for it. -/
  | act (id : Nat) (a : Act)
  /-- The time of a key is over. -/
  | expiry (key : String)
  /-- Commands begin to fail, or to work again. -/
  | outage (o : Option Outage)

namespace World

/-- The world before any call: the server keeps nothing. -/
def init (m : Matcher) : World := ⟨m, ⟨[], none⟩, []⟩

/-- The world after an event, if it can happen. -/
def step (w : World) : Event → Option World
  | .begin id s c =>
    if id = w.calls.length then some { w with calls := w.calls ++ [⟨s, c, c.start⟩] } else none
  | .act id a =>
    match w.calls[id]? with
    | none => none
    | some t => (t.act w.matcher w.server a).map fun (t, server) =>
      { w with server, calls := w.calls.set id t }
  | .expiry key => some { w with server := { w.server with store := w.server.store.erase key } }
  | .outage o => some { w with server := { w.server with outage := o } }

/-- The world after events, if they can happen in that order. -/
def run (w : World) (es : List Event) : Option World := es.foldlM step w

/-- Events that follow others happen in the world that these have led to. -/
theorem run_append (w : World) (es fs : List Event) :
    w.run (es ++ fs) = (w.run es).bind fun w' => w'.run fs := by
  rw [run, List.foldlM_append]
  rfl

/-- One more event happens in the world that the earlier ones have led to. -/
theorem run_concat (w : World) (es : List Event) (e : Event) :
    w.run (es ++ [e]) = (w.run es).bind fun w' => w'.step e := by
  rw [run_append]
  congr 1
  funext w'
  rw [run, List.foldlM_cons]
  cases w'.step e <;> rfl

end World

/-! ### A call by itself -/

/-- **What an act of an invalidation does**: it lists the keys, or removes one of them, or returns. -/
theorem Searcher.invalidateAct_cases {s : Searcher} {index : String} {m : Matcher}
    {server server' : Server} {stage stage' : Stage} {a : Act}
    (h : s.invalidateAct index m server stage a = some (stage', server')) :
    (∃ keys, server.scan (SearchRequest.indexPattern index) m = .ok keys
        ∧ stage' = .removing keys 0 ∧ server' = server)
      ∨ (∃ k rest n n', stage = .removing (k :: rest) n ∧ server.delete k = .ok (n', server')
        ∧ stage' = .removing rest (n + n'))
      ∨ (∃ x, stage' = .returning x ∨ stage' = .returned x) ∧ server' = server := by
  unfold invalidateAct at h
  split at h
  · -- listing
    split at h
    · cases h
      exact .inr (.inr ⟨⟨_, .inl rfl⟩, rfl⟩)
    · split at h
      · cases h
        exact .inr (.inr ⟨⟨_, .inl rfl⟩, rfl⟩)
      · split at h
        · cases h
          exact .inr (.inr ⟨⟨_, .inl rfl⟩, rfl⟩)
        · rename_i keys hscan
          cases h
          exact .inl ⟨keys, hscan, rfl, rfl⟩
  · -- removing a key
    split at h
    · cases h
      exact .inr (.inr ⟨⟨_, .inl rfl⟩, rfl⟩)
    · rename_i hdelete
      cases h
      exact .inr (.inl ⟨_, _, _, _, rfl, hdelete, rfl⟩)
  · -- nothing is left to be removed
    cases h
    exact .inr (.inr ⟨⟨_, .inr rfl⟩, rfl⟩)
  · -- returning
    cases h
    exact .inr (.inr ⟨⟨_, .inr rfl⟩, rfl⟩)
  · cases h

namespace OpenCall

/-- A call acts once and then goes on from there. -/
theorem acts_cons (t : OpenCall) (m : Matcher) (server : Server) (a : Act) (as : List Act) :
    t.acts m server (a :: as) = (t.act m server a).bind fun x => x.1.acts m x.2 as := by
  rw [acts, List.foldlM_cons]
  rfl

variable {s : Searcher} {index : String} {r : SearchRequest} {form : DocumentForm} {reply : Reply}
  {m : Matcher} {server : Server}

/-- An act of a search is one of its searcher. -/
theorem act_search (stage : Stage) (a : Act) :
    act ⟨s, .search index r form reply, stage⟩ m server a
      = (s.searchAct index r reply server stage a).map fun x =>
        (⟨s, .search index r form reply, x.1⟩, x.2) := rfl

/-- An act of an invalidation is one of its searcher. -/
theorem act_invalidate (stage : Stage) (a : Act) :
    act ⟨s, .invalidate index, stage⟩ m server a
      = (s.invalidateAct index m server stage a).map fun x =>
        (⟨s, .invalidate index, x.1⟩, x.2) := rfl

/-- A search for which nothing is known goes on to the service, and if a request can be sent, to its
    answer. -/
theorem acts_of_unknown (hlookUp : s.lookUp server (r.key index) = .ok .null)
    (hsent : (s.connection.service.exchange (.text index) r reply).sent ≠ []) (as : List Act) :
    acts ⟨s, .search index r form reply, .looking⟩ m server (.look :: .send :: .produce :: as)
      = acts ⟨s, .search index r form reply, .replied⟩ m server as := by
  cases h : (s.connection.service.exchange (.text index) r reply).sent with
  | nil => exact absurd h hsent
  | cons q qs =>
    simp only [acts_cons, act_search, Searcher.searchAct, hlookUp, h, Option.map_some,
      Option.bind_some]
    rfl

/-- An answer that is not null is received to be kept. -/
theorem receive_of_ne {j : Json} (hx : s.answer index r reply = .ok j) (hj : j ≠ .null) :
    s.searchAct index r reply server .replied .receive = some (.keeping, server) := by
  rw [Searcher.searchAct, hx]
  cases j with
  | null => exact absurd rfl hj
  | _ => rfl

/-- **A search whose acts follow each other is the search made at once.** -/
theorem exists_acts_search (s : Searcher) (index : String) (r : SearchRequest) (form : DocumentForm)
    (reply : Reply) (m : Matcher) (server : Server) :
    ∃ as, acts ⟨s, .search index r form reply, .looking⟩ m server as
      = some (⟨s, .search index r form reply,
          .returned (.body (s.fetch (.text index) r reply server).result)⟩,
        (s.fetch (.text index) r reply server).server) := by
  -- an answer is the answer to a request that was sent
  have hsent {j : Json} (hx : s.answer index r reply = .ok j) :
      (s.connection.service.exchange (.text index) r reply).sent ≠ [] := by
    obtain ⟨c, url, -, -, hsent⟩ := Service.sent_of_outcome hx
    rw [hsent]
    exact List.cons_ne_nil _ _
  have hcourse := Searcher.fetch_course s (.text index) r reply server
  generalize s.fetch (.text index) r reply server = o at hcourse ⊢
  -- for each course of the whole search, the acts that lead there one after the other
  cases hcourse with
  | unread hlookUp =>
    refine ⟨[.look, .finish], ?_⟩
    change s.lookUp server (r.key index) = _ at hlookUp
    simp only [acts_cons, act_search, Searcher.searchAct, hlookUp, Option.map_some,
      Option.bind_some]
    rfl
  | known hlookUp hv =>
    refine ⟨[.look, .finish], ?_⟩
    change s.lookUp server (r.key index) = _ at hlookUp
    simp only [acts_cons, act_search, Searcher.searchAct, hlookUp, hv, Option.map_some,
      Option.bind_some]
    rfl
  | unanswered hlookUp hx =>
    change s.lookUp server (r.key index) = _ at hlookUp
    change s.answer index r reply = _ at hx
    by_cases hnone : (s.connection.service.exchange (.text index) r reply).sent = []
    · -- no request can be sent
      refine ⟨[.look, .send, .finish], ?_⟩
      simp only [acts_cons, act_search, Searcher.searchAct, hlookUp, hnone, hx, Value.isNull,
        if_true, Option.map_some, Option.bind_some]
      rfl
    · refine ⟨[.look, .send, .produce, .receive, .finish], ?_⟩
      rw [acts_of_unknown hlookUp hnone]
      simp only [acts_cons, act_search, Searcher.searchAct, hx, Option.map_some, Option.bind_some]
      rfl
  | null hlookUp hx =>
    change s.lookUp server (r.key index) = _ at hlookUp
    change s.answer index r reply = _ at hx
    refine ⟨[.look, .send, .produce, .receive, .finish], ?_⟩
    rw [acts_of_unknown hlookUp (hsent hx)]
    simp only [acts_cons, act_search, Searcher.searchAct, hx, Option.map_some, Option.bind_some]
    rfl
  | unkept hlookUp hx hj hkeep =>
    change s.lookUp server (r.key index) = _ at hlookUp
    change s.answer index r reply = _ at hx
    change s.keep server (r.key index) _ = _ at hkeep
    refine ⟨[.look, .send, .produce, .receive, .keep, .finish], ?_⟩
    rw [acts_of_unknown hlookUp (hsent hx), acts_cons, act_search, receive_of_ne hx hj]
    simp only [acts_cons, act_search, Searcher.searchAct, hx, hkeep, Option.map_some,
      Option.bind_some]
    rfl
  | kept hlookUp hx hj hkeep =>
    change s.lookUp server (r.key index) = _ at hlookUp
    change s.answer index r reply = _ at hx
    change s.keep server (r.key index) _ = _ at hkeep
    refine ⟨[.look, .send, .produce, .receive, .keep, .finish], ?_⟩
    rw [acts_of_unknown hlookUp (hsent hx), acts_cons, act_search, receive_of_ne hx hj]
    simp only [acts_cons, act_search, Searcher.searchAct, hx, hkeep, Option.map_some,
      Option.bind_some]
    rfl

/-- Keys that are removed one after the other are removed at once. -/
theorem exists_acts_removing (s : Searcher) (index : String) (keys : List String) (n : Nat)
    (m : Matcher) (server : Server) :
    ∃ as, acts ⟨s, .invalidate index, .removing keys n⟩ m server as
      = some (⟨s, .invalidate index,
          .returned (.count ((Link.deleteAll server keys).1.map fun n' => n + n'))⟩,
        (Link.deleteAll server keys).2) := by
  induction keys generalizing n server with
  | nil => exact ⟨[.finish], rfl⟩
  | cons k rest ih =>
    cases hdelete : server.delete k with
    | error e =>
      refine ⟨[.remove, .finish], ?_⟩
      simp only [acts_cons, act_invalidate, Searcher.invalidateAct, hdelete, Link.deleteAll,
        Option.map_some, Option.bind_some]
      rfl
    | ok x =>
      obtain ⟨n', after⟩ := x
      obtain ⟨as, has⟩ := ih (n + n') after
      refine ⟨.remove :: as, ?_⟩
      have hremove : act ⟨s, .invalidate index, .removing (k :: rest) n⟩ m server .remove
          = some (⟨s, .invalidate index, .removing rest (n + n')⟩, after) := by
        rw [act_invalidate, Searcher.invalidateAct, hdelete]
        rfl
      -- the number so far and the number of what is left are added in either order
      have hcount : ((Link.deleteAll after rest).1.map fun n₁ => n' + n₁).map (fun n₁ => n + n₁)
          = (Link.deleteAll after rest).1.map fun n₁ => n + n' + n₁ := by
        cases (Link.deleteAll after rest).1 with
        | error e => rfl
        | ok n₁ => exact congrArg Except.ok (Nat.add_assoc n n' n₁).symm
      rw [acts_cons, hremove, Option.bind_some, has, Link.deleteAll_cons hdelete, hcount]

/-- **An invalidation whose acts follow each other is the invalidation made at once.** -/
theorem exists_acts_invalidate (s : Searcher) (index : String) (m : Matcher) (server : Server) :
    ∃ as, acts ⟨s, .invalidate index, .listing⟩ m server as
      = some (⟨s, .invalidate index, .returned (.count (s.invalidateBy (.text index) server m).1)⟩,
        (s.invalidateBy (.text index) server m).2) := by
  have hlist : act ⟨s, .invalidate index, .listing⟩ m server .list = _ :=
    act_invalidate .listing .list
  have hplain : (Value.text index).plain = index := rfl
  rw [Searcher.invalidateAct] at hlist
  rw [Searcher.invalidateBy]
  -- without a store or a connection there is nothing to be listed
  cases hlink : s.link with
  | none =>
    rw [hlink] at hlist
    refine ⟨[.list, .finish], ?_⟩
    rw [acts_cons, hlist]
    rfl
  | some l =>
    rw [hlink] at hlist
    cases hconnected : l.connected with
    | false =>
      simp only [hconnected, Bool.not_false, if_true] at hlist
      refine ⟨[.list, .finish], ?_⟩
      simp only [acts_cons, hlist, Link.deleteMatchingBy, hconnected, Bool.not_false, if_true]
      rfl
    | true =>
      cases hscan : server.scan (SearchRequest.indexPattern index) m with
      | error e =>
        simp only [hconnected, Bool.not_true, Bool.false_eq_true, if_false, hscan] at hlist
        refine ⟨[.list, .finish], ?_⟩
        simp only [acts_cons, hlist, Link.deleteMatchingBy, hconnected, Bool.not_true,
          Bool.false_eq_true, if_false, hplain, hscan]
        rfl
      | ok keys =>
        simp only [hconnected, Bool.not_true, Bool.false_eq_true, if_false, hscan] at hlist
        obtain ⟨as, has⟩ := exists_acts_removing s index keys 0 m server
        refine ⟨.list :: as, ?_⟩
        -- the count of the steps starts at nothing, and so does that of the whole
        have hcount : (Link.deleteAll server keys).1.map (fun n => 0 + n)
            = (Link.deleteAll server keys).1 := by
          cases (Link.deleteAll server keys).1 with
          | error e => rfl
          | ok n => exact congrArg Except.ok (Nat.zero_add n)
        rw [hcount] at has
        simp only [acts_cons, hlist, Link.deleteMatchingBy, hconnected, Bool.not_true,
          Bool.false_eq_true, if_false, hplain, hscan]
        exact has

end OpenCall

namespace World

/-- A call that begins is at its first stage. -/
theorem run_begin (w : World) (s : Searcher) (c : Call) (es : List Event) :
    w.run (.begin w.calls.length s c :: es)
      = run { w with calls := w.calls ++ [⟨s, c, c.start⟩] } es := by
  rw [run, List.foldlM_cons, step, if_pos rfl]
  rfl

/-- An act changes the server and the call, and nothing else. -/
theorem run_act {w : World} {id : Nat} {t t' : OpenCall} {a : Act} {server : Server}
    {es : List Event} (ht : w.calls[id]? = some t)
    (hact : t.act w.matcher w.server a = some (t', server)) :
    w.run (.act id a :: es) = run { w with server, calls := w.calls.set id t' } es := by
  have hstep : w.step (.act id a) = some { w with server, calls := w.calls.set id t' } := by
    simp only [step, ht, hact, Option.map_some]
  rw [run, List.foldlM_cons, hstep]
  rfl

/-- What the last call does, the others do not change. -/
theorem run_acts {m : Matcher} {t t' : OpenCall} {server server' : Server} {as : List Act}
    (calls : List OpenCall) (h : t.acts m server as = some (t', server')) :
    run ⟨m, server, calls ++ [t]⟩ (as.map (.act calls.length))
      = some ⟨m, server', calls ++ [t']⟩ := by
  -- induction on the acts; the call is the last one of the world, and stays there
  induction as generalizing t server with
  | nil =>
    cases h
    rfl
  | cons a as ih =>
    rw [OpenCall.acts_cons] at h
    obtain ⟨⟨t₁, server₁⟩, hact, hrest⟩ := Option.bind_eq_some_iff.mp h
    have hset : (calls ++ [t]).set calls.length t₁ = calls ++ [t₁] := by
      rw [List.set_append_right _ _ (Nat.le_refl _), Nat.sub_self]
      rfl
    rw [List.map_cons, run_act List.getElem?_concat_length hact, hset]
    exact ih hrest

/-- **A search that no other call comes between is the search made at once.** -/
theorem run_search (w : World) (s : Searcher) (index : String) (r : SearchRequest)
    (form : DocumentForm) (reply : Reply) :
    ∃ (as : List Act) (body : Except SearchFailure Value),
      w.run (.begin w.calls.length s (.search index r form reply)
          :: as.map (.act w.calls.length))
        = some { w with
          server := (s.search (.text index) r form reply w.server).server
          calls := w.calls ++ [⟨s, .search index r form reply, .returned (.body body)⟩] }
      ∧ (s.search (.text index) r form reply w.server).result = taken form body := by
  obtain ⟨as, has⟩ := OpenCall.exists_acts_search s index r form reply w.matcher w.server
  refine ⟨as, _, ?_, by rw [Searcher.search_eq]⟩
  rw [run_begin, Searcher.search_eq]
  exact run_acts w.calls has

/-- **An invalidation that no other call comes between is the invalidation made at once.** -/
theorem run_invalidate (w : World) (s : Searcher) (index : String) :
    ∃ as : List Act,
      w.run (.begin w.calls.length s (.invalidate index) :: as.map (.act w.calls.length))
        = some { w with
          server := (s.invalidateBy (.text index) w.server w.matcher).2
          calls := w.calls ++ [⟨s, .invalidate index,
            .returned (.count (s.invalidateBy (.text index) w.server w.matcher).1)⟩] } := by
  obtain ⟨as, has⟩ := OpenCall.exists_acts_invalidate s index w.matcher w.server
  refine ⟨as, ?_⟩
  rw [run_begin]
  exact run_acts w.calls has

end World

end IndexSearch
