import IndexSearch.Proofs.Interleaving

namespace IndexSearch

open Number SearchRequest Text

/-!
# Keys of others

A key-value server may keep texts of others beside the answers to searches. What is kept of answers
lies under keys that begin with `azquery:search:`, and so do all keys that an invalidation removes:
its pattern begins like that, and whatever the name of the index makes of the rest of the pattern,
what the server lists begins like it. So no other key is ever written or removed.

* `IsAnswerKey` — whether a key can be one of an answer;
* `Server.SameElse` — a server has the same as another one under all other keys;
* `Searcher.sameElse_search`, `Searcher.sameElse_invalidateBy` — one call;
* `OpenCall.sameElse_act` — one act of a call, while others are under way;
* `foreign_keys_kept` — any number of calls, one after the other and side by side.
-/

/-- Whether a key begins like those that answers are kept under. -/
def IsAnswerKey (key : String) : Prop := "azquery:search:".toList <+: key.toList

instance (key : String) : Decidable (IsAnswerKey key) := by unfold IsAnswerKey; infer_instance

/-- Answers are kept under keys of answers. -/
theorem isAnswerKey_key (r : SearchRequest) (index : String) : IsAnswerKey (r.key index) := by
  rw [IsAnswerKey, toList_key]
  exact List.prefix_append _ _

/-- **The pattern of an index stands for keys of answers alone**, whatever the name is, and whoever
    reads it. -/
theorem isAnswerKey_of_matches {m : Matcher} (hm : m.TakesLiterals) {index key : String}
    (h : m (indexPattern index).toList key.toList = true) : IsAnswerKey key := by
  rw [toList_indexPattern] at h
  exact hm.isPrefix not_isSign_stem h

namespace Server

/-- Whether two servers have the same under all keys but those of answers. -/
def SameElse (server server' : Server) : Prop :=
  ∀ key, ¬ IsAnswerKey key → Store.get? key server'.store = Store.get? key server.store

variable {server server₁ server₂ : Server}

/-- A server keeps what it has. -/
theorem SameElse.refl (server : Server) : server.SameElse server := fun _ _ => rfl

/-- What is kept twice is kept. -/
theorem SameElse.trans (h : server.SameElse server₁) (h' : server₁.SameElse server₂) :
    server.SameElse server₂ := fun key hkey => (h' key hkey).trans (h key hkey)

/-- Removing the key of an answer changes nothing else. -/
theorem sameElse_of_delete {k : String} {n : Nat} (hk : IsAnswerKey k)
    (h : server.delete k = .ok (n, server₁)) : server.SameElse server₁ := by
  intro key hkey
  rw [store_of_delete h]
  apply Store.get?_erase_of_ne
  rintro rfl
  exact hkey hk

/-- What is listed for the pattern of an index are keys of answers. -/
theorem isAnswerKey_of_scan {m : Matcher} (hm : m.TakesLiterals) {index : String}
    {keys : List String} (h : server.scan (indexPattern index) m = .ok keys) :
    ∀ k ∈ keys, IsAnswerKey k := by
  intro k hk
  rw [← (scan_eq_ok_iff.mp h).2, Store.matching, List.mem_filter] at hk
  exact isAnswerKey_of_matches hm hk.2

end Server

/-- To remove keys of answers is to leave all others alone. -/
theorem Link.sameElse_deleteAll {keys : List String} (hkeys : ∀ k ∈ keys, IsAnswerKey k)
    (server : Server) : server.SameElse (deleteAll server keys).2 := by
  induction keys generalizing server with
  | nil => exact .refl server
  | cons k keys ih =>
    obtain ⟨hk, hrest⟩ := List.forall_mem_cons.mp hkeys
    cases hdelete : server.delete k with
    | error e =>
      simp only [deleteAll, hdelete]
      exact .refl server
    | ok x =>
      rw [deleteAll_cons hdelete]
      exact (Server.sameElse_of_delete hk hdelete).trans (ih hrest x.2)

/-! ### One call -/

namespace Searcher

variable {s : Searcher} {server server' : Server}

/-- Keeping an answer changes nothing else. -/
theorem sameElse_of_keep {index : String} {r : SearchRequest} {j : Json}
    (hj : j.Readable isShort) (h : s.keep server (r.key index) j.toValue = .ok server') :
    server.SameElse server' := by
  by_cases hlinked : s.IsLinked
  · rw [keep_of_linked hlinked _ hj] at h
    split at h
    · cases h
    · -- the store changes at the key of the request, which is a key of answers
      intro key hkey
      rw [← Except.ok.inj h]
      apply Store.get?_put_of_ne
      rintro rfl
      exact hkey (isAnswerKey_key r index)
  · -- without a connection nothing is kept
    rw [(lookUp_and_keep_of_not_linked hlinked _ _).2] at h
    rw [← Except.ok.inj h]
    exact .refl server

/-- **A search leaves the keys of others alone**, whatever comes of it. -/
theorem sameElse_search (s : Searcher) (index : Value) (r : SearchRequest) (form : DocumentForm)
    (reply : Reply) (server : Server) :
    server.SameElse (s.search index r form reply server).server := by
  rw [search_eq]
  have hcourse := fetch_course s index r reply server
  generalize s.fetch index r reply server = o at hcourse ⊢
  cases hcourse with
  | kept hlookUp hx hj hkeep => exact sameElse_of_keep (Service.readable_of_outcome hx) hkeep
  | _ => exact .refl server

/-- **An invalidation leaves the keys of others alone**, whatever the name of its index is, and also
    if it does not come to its end. -/
theorem sameElse_invalidateBy {m : Matcher} (hm : m.TakesLiterals) (s : Searcher) (index : Value)
    (server : Server) : server.SameElse (s.invalidateBy index server m).2 := by
  unfold invalidateBy Link.deleteMatchingBy
  split
  · exact .refl server
  · split
    · exact .refl server
    · split
      · exact .refl server
      · rename_i keys hscan
        exact Link.sameElse_deleteAll (Server.isAnswerKey_of_scan hm hscan) server

end Searcher

/-! ### Calls one after the other -/

/-- A call that one of any number of searchers makes, with the state in which commands fail by then,
    if there is one. -/
structure Turn where
  /-- The searcher. -/
  searcher : Searcher
  /-- The call. -/
  call : Call
  /-- The state in which commands fail. -/
  outage : Option Outage

namespace Server

/-- A server, which reads patterns in its own way, after a call. -/
def afterTurn (m : Matcher) (server : Server) (t : Turn) : Server :=
  let now := { server with outage := t.outage }
  match t.call with
  | .search index r form reply => (t.searcher.search (.text index) r form reply now).server
  | .invalidate index => (t.searcher.invalidateBy (.text index) now m).2

/-- The server after calls. -/
def afterTurns (m : Matcher) (server : Server) (ts : List Turn) : Server :=
  ts.foldl (afterTurn m) server

variable {m : Matcher} (hm : m.TakesLiterals)

include hm

/-- One use of a server leaves the keys of others alone. -/
theorem sameElse_afterTurn (server : Server) (t : Turn) :
    server.SameElse (server.afterTurn m t) := by
  have hnow : server.SameElse { server with outage := t.outage } := fun _ _ => rfl
  rw [afterTurn]
  cases t.call with
  | search index r form reply => exact hnow.trans (Searcher.sameElse_search _ _ _ _ _ _)
  | invalidate index => exact hnow.trans (Searcher.sameElse_invalidateBy hm _ _ _)

/-- Uses of a server leave the keys of others alone. -/
theorem sameElse_afterTurns (server : Server) (ts : List Turn) :
    server.SameElse (server.afterTurns m ts) := by
  induction ts generalizing server with
  | nil => exact .refl server
  | cons t ts ih => exact (sameElse_afterTurn hm server t).trans (ih (server.afterTurn m t))

end Server

/-! ### Calls side by side -/

/-- Whether all keys that a call has still to remove are those of answers. -/
def Stage.RemovesAnswers : Stage → Prop
  | .removing keys _ => ∀ k ∈ keys, IsAnswerKey k
  | _ => True

namespace OpenCall

variable {t t' : OpenCall} {s : Searcher} {index : String} {r : SearchRequest} {reply : Reply}
  {stage stage' : Stage} {m : Matcher} {server server' : Server} {a : Act}

/-- An act of a search writes at most the key of its answer, and leaves nothing to be removed. -/
theorem sameElse_searchAct
    (h : s.searchAct index r reply server stage a = some (stage', server')) :
    server.SameElse server' ∧ stage'.RemovesAnswers := by
  unfold Searcher.searchAct at h
  split at h
  · -- looking
    split at h
    · cases h
      exact ⟨.refl server, trivial⟩
    · rename_i v hlookUp
      cases h
      refine ⟨.refl server, ?_⟩
      cases v.isNull <;> trivial
  · -- sending
    split at h <;> (cases h; exact ⟨.refl server, trivial⟩)
  · -- asking
    cases h
    exact ⟨.refl server, trivial⟩
  · -- replied
    split at h <;> (cases h; exact ⟨.refl server, trivial⟩)
  · -- keeping
    split at h
    · cases h
    · rename_i hanswer
      have hj := Service.readable_of_outcome hanswer
      split at h
      · cases h
        exact ⟨.refl server, trivial⟩
      · rename_i hkeep
        cases h
        exact ⟨Searcher.sameElse_of_keep hj hkeep, trivial⟩
  · -- returning
    cases h
    exact ⟨.refl server, trivial⟩
  · cases h

/-- An act of an invalidation removes at most the key of an answer. -/
theorem sameElse_invalidateAct (hm : m.TakesLiterals) (hstage : stage.RemovesAnswers)
    (h : s.invalidateAct index m server stage a = some (stage', server')) :
    server.SameElse server' ∧ stage'.RemovesAnswers := by
  rcases Searcher.invalidateAct_cases h with
    ⟨keys, hscan, rfl, rfl⟩ | ⟨k, rest, n, n', rfl, hdelete, rfl⟩ | ⟨⟨x, rfl | rfl⟩, rfl⟩
  · exact ⟨.refl server', Server.isAnswerKey_of_scan hm hscan⟩
  · obtain ⟨hk, hrest⟩ := List.forall_mem_cons.mp hstage
    exact ⟨Server.sameElse_of_delete hk hdelete, hrest⟩
  · exact ⟨.refl server', trivial⟩
  · exact ⟨.refl server', trivial⟩

/-- **An act leaves the keys of others alone**, and what is left to be removed are keys of
    answers. -/
theorem sameElse_act (hm : m.TakesLiterals) (ht : t.stage.RemovesAnswers)
    (h : t.act m server a = some (t', server')) :
    server.SameElse server' ∧ t'.stage.RemovesAnswers := by
  obtain ⟨s, call, stage⟩ := t
  cases call with
  | search index r form reply =>
    rw [act_search] at h
    obtain ⟨⟨stage', server''⟩, hact, heq⟩ := Option.map_eq_some_iff.mp h
    cases heq
    exact sameElse_searchAct hact
  | invalidate index =>
    rw [act_invalidate] at h
    obtain ⟨⟨stage', server''⟩, hact, heq⟩ := Option.map_eq_some_iff.mp h
    cases heq
    exact sameElse_invalidateAct hm ht hact

end OpenCall

namespace World

variable {w w' : World} {e : Event} {es : List Event}

/-- Whether all keys that calls have still to remove are those of answers. -/
def RemovesAnswers (w : World) : Prop := ∀ t ∈ w.calls, t.stage.RemovesAnswers

/-- **An event leaves the keys of others alone**, unless it is the end of the time of one. -/
theorem sameElse_step (hm : w.matcher.TakesLiterals) (hw : w.RemovesAnswers)
    (he : ∀ k, e = .expiry k → IsAnswerKey k) (h : w.step e = some w') :
    w.server.SameElse w'.server ∧ w'.RemovesAnswers ∧ w'.matcher = w.matcher := by
  -- one case for each kind of event: a call that begins has removed nothing yet, and an expiry is
  -- of a key of answers
  cases e with
  | begin id s c =>
    rw [step] at h
    split at h
    · cases h
      refine ⟨.refl _, ?_, rfl⟩
      intro t ht
      rcases List.mem_append.mp ht with ht | ht
      · exact hw t ht
      · rw [List.mem_singleton.mp ht]
        cases c <;> trivial
    · cases h
  | act id a =>
    rw [step] at h
    split at h
    · cases h
    · rename_i t hid
      obtain ⟨⟨t', server'⟩, hact, heq⟩ := Option.map_eq_some_iff.mp h
      cases heq
      obtain ⟨hsame, ht'⟩ :=
        OpenCall.sameElse_act hm (hw t (List.mem_of_getElem? hid)) hact
      refine ⟨hsame, ?_, rfl⟩
      intro u hu
      rcases List.mem_or_eq_of_mem_set hu with hu | rfl
      · exact hw u hu
      · exact ht'
  | expiry k =>
    cases h
    refine ⟨?_, hw, rfl⟩
    intro key hkey
    apply Store.get?_erase_of_ne
    rintro rfl
    exact hkey (he key rfl)
  | outage o =>
    cases h
    exact ⟨fun _ _ => rfl, hw, rfl⟩

/-- **A run leaves the keys of others alone**, in whatever order its calls act. -/
theorem sameElse_run (hm : w.matcher.TakesLiterals) (hw : w.RemovesAnswers)
    (hes : ∀ k, .expiry k ∈ es → IsAnswerKey k) (h : w.run es = some w') :
    w.server.SameElse w'.server := by
  induction es generalizing w with
  | nil =>
    cases h
    exact .refl _
  | cons e es ih =>
    rw [run, List.foldlM_cons] at h
    obtain ⟨w₁, hstep, hrest⟩ := Option.bind_eq_some_iff.mp h
    obtain ⟨hsame, hw₁, hmatcher⟩ :=
      sameElse_step hm hw (fun k hk => hes k (hk ▸ List.mem_cons_self)) hstep
    exact hsame.trans (ih (hmatcher ▸ hm) hw₁ (fun k hk => hes k (List.mem_cons_of_mem e hk)) hrest)

end World

/-- **The keys of others are never touched.** Whatever a server keeps at first, and however it reads
    patterns, as long as plain characters stand for themselves in them: after any calls of any
    searchers, with any names of indexes, requests and replies, and with commands that fail at any
    time, the server has the same text with the same expiry under each key that does not begin like
    those of answers, or still none. This is so for calls one after the other, and for calls whose
    acts come between each other, where the time of keys may be over as well, but not that of a key
    of others. -/
theorem foreign_keys_kept {m : Matcher} (hm : m.TakesLiterals) (server : Server) {key : String}
    (hkey : ¬ "azquery:search:".toList <+: key.toList) :
    (∀ ts, Store.get? key (server.afterTurns m ts).store = Store.get? key server.store)
      ∧ ∀ es w, World.run ⟨m, server, []⟩ es = some w →
        (∀ k, .expiry k ∈ es → "azquery:search:".toList <+: k.toList) →
          Store.get? key w.server.store = Store.get? key server.store := by
  constructor
  · intro ts
    exact Server.sameElse_afterTurns hm server ts key hkey
  · intro es w hrun hes
    have hnone : World.RemovesAnswers ⟨m, server, []⟩ := fun t ht => by cases ht
    exact World.sameElse_run (w := ⟨m, server, []⟩) hm hnone hes hrun key hkey

/-- Names that are patterns themselves, one of them with a class that is not closed, and a server
    that knows all signs: the key of an answer is removed, those of others stay, even one that begins
    almost like it, and those that are not there do not come to be. -/
theorem foreign_keys_kept_of_signs :
    let s : Searcher := ⟨.ofService ⟨"https://docs.search.windows.net", .null, .text "2020-06-30",
      .int 30⟩, some ⟨.null, true⟩, .int 300⟩
    let r : SearchRequest := ⟨none, none, [], none, none, [], false⟩
    let server : Server :=
      ⟨[("azquery:searches:1", ⟨"a", .int 60⟩), ("azquery:search:docs:1", ⟨"b", .int 300⟩)], none⟩
    let after := (server.afterTurns matchesGlob
      [⟨s, .search "\\[" r .plain (.answered 200 [0x7b, 0x7d]), none⟩,
        ⟨s, .invalidate "[^", none⟩, ⟨s, .invalidate "\\*", none⟩, ⟨s, .invalidate "*", none⟩]).store
    Store.get? "azquery:searches:1" after = some ⟨"a", .int 60⟩
      ∧ Store.get? "azquery:*" after = none
      ∧ (Store.get? "azquery:search:docs:1" after).isNone = true := by
  intro s r server after
  -- whatever the names mean in a pattern, its front stands before them
  have hkept : ∀ key : String, ¬ "azquery:search:".toList <+: key.toList →
      Store.get? key after = Store.get? key server.store := fun key hkey =>
    (foreign_keys_kept takesLiterals_matchesGlob server hkey).1 _
  refine ⟨(hkept _ (by decide)).trans rfl, (hkept _ (by decide)).trans rfl, ?_⟩
  decide +kernel

end IndexSearch
