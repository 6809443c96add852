import IndexSearch.Proofs.Interleaving

namespace IndexSearch

open SearchRequest Text

/-!
# What calls have done by a time

Of every world that events have led to, it can be told what each call has done so far: what a search
returns was produced by the service for itself, or lay on the server when it looked there; and all
that lies on the server under the keys of an index, once an invalidation has removed what it listed,
was kept after it had listed the keys. The invariant `Consistent` says so, and every event keeps it:
an act by what the act does, and an act of another call because it adds to the store at most what
that call has fetched.

* `Precedes` — one event comes before another;
* `Fetched`, `Found` — where the answer of a search comes from;
* `Cleared` — what an invalidation has left on the server;
* `SearchSound.act`, `InvalidationSound.act` — what an act does;
* `Consistent.step`, `World.consistent_of_run` — the invariant, of one event and of a run.
-/

/-! ### The order of events -/

/-- Whether one event comes before another. -/
def Precedes (es : List Event) (e f : Event) : Prop := [e, f].Sublist es

section

variable {es fs : List Event} {e f g : Event}

/-- The order of events stays when more events follow. -/
theorem Precedes.append (h : Precedes es e f) (fs : List Event) : Precedes (es ++ fs) e f :=
  h.trans (List.sublist_append_left es fs)

/-- What comes before something has happened. -/
theorem Precedes.mem_left (h : Precedes es e f) : e ∈ es := h.subset List.mem_cons_self

/-- What something comes before has happened. -/
theorem Precedes.mem_right (h : Precedes es e f) : f ∈ es :=
  h.subset (List.mem_cons_of_mem e List.mem_cons_self)

/-- What has happened comes before what happens next. -/
theorem precedes_of_mem (he : e ∈ es) (hf : f ∈ fs) : Precedes (es ++ fs) e f :=
  (List.singleton_sublist.mpr he).append (List.singleton_sublist.mpr hf)

/-- What comes before an event that has happened by then, has happened by then. -/
theorem Precedes.mem_of_notMem (h : Precedes (es ++ fs) e f) (hf : f ∉ fs) : e ∈ es := by
  obtain ⟨front, back, heq, hfront, hback⟩ := List.sublist_append_iff.mp h
  rcases front with _ | ⟨x, front⟩
  · rw [List.nil_append] at heq
    rw [← heq] at hback
    exact absurd (hback.subset (List.mem_cons_of_mem e List.mem_cons_self)) hf
  · rw [List.cons_append] at heq
    rw [(List.cons.inj heq).1]
    exact hfront.subset List.mem_cons_self

/-- The order of events and of one more. -/
theorem precedes_concat_iff : Precedes (es ++ [g]) e f ↔ Precedes es e f ∨ (e ∈ es ∧ f = g) := by
  constructor
  · intro h
    -- the last event of the longer list is one of the pair, and then the second of it, or none
    obtain ⟨front, back, heq, hfront, hback⟩ := List.sublist_append_iff.mp h
    rcases List.sublist_singleton.mp hback with rfl | rfl
    · rw [List.append_nil] at heq
      rw [← heq] at hfront
      exact .inl hfront
    · have hsplit : [e] ++ [f] = front ++ [g] := heq
      obtain ⟨hfirst, hlast⟩ := List.append_inj' hsplit rfl
      rw [← hfirst] at hfront
      exact .inr ⟨List.singleton_sublist.mp hfront, List.singleton_inj.mp hlast⟩
  · rintro (h | ⟨he, rfl⟩)
    · exact h.append [g]
    · exact precedes_of_mem he (List.mem_singleton.mpr rfl)

end

/-! ### Where answers come from -/

/-- Whether the search of a number has its answer from its own service: it searches under the key,
    and the service has produced `v` for it. -/
def Fetched (es : List Event) (key : String) (v : Value) (a : Nat) : Prop :=
  ∃ s index r form reply j, .begin a s (.search index r form reply) ∈ es
    ∧ r.key index = key ∧ s.answer index r reply = .ok j ∧ v = j.toValue ∧ .act a .produce ∈ es

/-- Whether the search of a number has found its answer on the server when it looked there. -/
def Found (m : Matcher) (es : List Event) (s : Searcher) (key : String) (v : Value) (b : Nat) :
    Prop :=
  ∃ before after w, es = before ++ .act b .look :: after ∧ (World.init m).run before = some w
    ∧ b < w.calls.length ∧ s.lookUp w.server key = .ok v ∧ v.isNull = false

/-- Whether a store has under the keys that match the pattern of an index only keys that are left to
    be removed, and answers that were kept after the invalidation of a number listed the keys. -/
def Cleared (m : Matcher) (es : List Event) (store : Store) (i : Nat) (index : String)
    (left : List String) : Prop :=
  .act i .list ∈ es ∧ ∀ key t, Store.get? key store = some t →
    m (indexPattern index).toList key.toList = true → key ∈ left
      ∨ ∃ v a, Link.decode t.text = .ok v ∧ Fetched es key v a
        ∧ Precedes es (.act i .list) (.act a .keep)

/-- Whether an event adds at most the answer of a search that is kept. -/
def Adds (es : List Event) (e : Event) (store store' : Store) : Prop :=
  ∀ key t, Store.get? key store' = some t → Store.get? key store = some t
    ∨ ∃ v a, e = .act a .keep ∧ Link.decode t.text = .ok v ∧ Fetched es key v a

section

variable {es : List Event} {e : Event} {key : String} {v : Value} {a b i : Nat} {s : Searcher}
  {store store' : Store} {index : String} {left : List String} {m : Matcher}

/-- What a search has fetched by a time it has fetched later. -/
theorem Fetched.append (h : Fetched es key v a) (fs : List Event) : Fetched (es ++ fs) key v a := by
  obtain ⟨s, index, r, form, reply, j, hbegin, hkey, hanswer, hv, hproduce⟩ := h
  exact ⟨s, index, r, form, reply, j, List.mem_append_left fs hbegin, hkey, hanswer, hv,
    List.mem_append_left fs hproduce⟩

/-- What a search has found by a time it has found later. -/
theorem Found.append (h : Found m es s key v b) (fs : List Event) :
    Found m (es ++ fs) s key v b := by
  obtain ⟨before, after, w, rfl, hrun, hb, hlookUp, hv⟩ := h
  refine ⟨before, after ++ fs, w, ?_, hrun, hb, hlookUp, hv⟩
  rw [List.append_assoc, List.cons_append]

/-- An event that leaves the store as it is adds nothing. -/
theorem Adds.refl : Adds es e store store := fun _ _ h => .inl h

/-- An event after the listing of the keys leaves what was cleared. -/
theorem Cleared.append (h : Cleared m es store i index left)
    (hadds : Adds (es ++ [e]) e store store') :
    Cleared m (es ++ [e]) store' i index left := by
  obtain ⟨hlist, hrest⟩ := h
  refine ⟨List.mem_append_left [e] hlist, fun key t ht hmatch => ?_⟩
  rcases hadds key t ht with hbefore | ⟨v, a, rfl, hread, hfetched⟩
  · rcases hrest key t hbefore hmatch with hleft | ⟨v, a, hread, hfetched, hprec⟩
    · exact .inl hleft
    · exact .inr ⟨v, a, hread, hfetched.append [e], hprec.append [e]⟩
  · exact .inr ⟨v, a, hread, hfetched, precedes_of_mem hlist (List.mem_singleton.mpr rfl)⟩

end

/-! ### What each call has done -/

/-- What is so of a search that has come to a stage. -/
def SearchSound (m : Matcher) (es : List Event) (id : Nat) (s : Searcher) (key : String) :
    Stage → Prop
  | .replied | .keeping => .act id .produce ∈ es
  | .returning (.body (.ok v)) | .returned (.body (.ok v)) =>
    Fetched es key v id ∨ Found m es s key v id
  | _ => True

/-- What is so of an invalidation over a connected link that has come to a stage. -/
def InvalidationSound (m : Matcher) (es : List Event) (store : Store) (id : Nat) (index : String) :
    Stage → Prop
  | .removing keys _ => Cleared m es store id index keys
  | .returning (.count (.ok _)) | .returned (.count (.ok _)) => Cleared m es store id index []
  | _ => True

/-- What is so of a call. -/
def OpenCall.Sound (m : Matcher) (es : List Event) (store : Store) (id : Nat) (t : OpenCall) :
    Prop :=
  match t.call with
  | .search index r _ _ => SearchSound m es id t.searcher (r.key index) t.stage
  | .invalidate index =>
    t.searcher.IsLinked → InvalidationSound m es store id index t.stage

section

variable {es : List Event} {e : Event} {id : Nat} {s : Searcher} {key : String} {stage : Stage}
  {store store' : Store} {index : String} {t : OpenCall} {m : Matcher}

/-- What is so of a search stays so when something else happens. -/
theorem SearchSound.append (h : SearchSound m es id s key stage) :
    SearchSound m (es ++ [e]) id s key stage := by
  unfold SearchSound at h ⊢
  split at h
  · exact List.mem_append_left [e] h
  · exact List.mem_append_left [e] h
  · exact h.imp (fun hf => hf.append [e]) fun hf => hf.append [e]
  · exact h.imp (fun hf => hf.append [e]) fun hf => hf.append [e]
  · trivial

/-- What is so of an invalidation stays so when something happens that adds at most an answer. -/
theorem InvalidationSound.append (h : InvalidationSound m es store id index stage)
    (hadds : Adds (es ++ [e]) e store store') :
    InvalidationSound m (es ++ [e]) store' id index stage := by
  unfold InvalidationSound at h ⊢
  split at h
  · exact h.append hadds
  · exact h.append hadds
  · exact h.append hadds
  · trivial

/-- What others do leaves what a call has done. -/
theorem OpenCall.Sound.append (h : t.Sound m es store id)
    (hadds : Adds (es ++ [e]) e store store') :
    t.Sound m (es ++ [e]) store' id := by
  unfold Sound at h ⊢
  split
  · rename_i hcall
    rw [hcall] at h
    exact SearchSound.append h
  · rename_i hcall
    rw [hcall] at h
    exact fun hlinked => (h hlinked).append hadds

end

/-! ### What an act does -/

section

variable {es : List Event} {w : World} {id : Nat} {s : Searcher} {index : String}
  {r : SearchRequest} {form : DocumentForm} {reply : Reply} {stage stage' : Stage} {a : Act}
  {server' : Server} {m : Matcher}

/-- The answer that the service has produced for a search is fetched. -/
theorem fetched_of_answer {j : Json} (hbegin : .begin id s (.search index r form reply) ∈ es)
    (hproduce : .act id .produce ∈ es) (hanswer : s.answer index r reply = .ok j) :
    Fetched es (r.key index) j.toValue id :=
  ⟨s, index, r, form, reply, j, hbegin, rfl, hanswer, rfl, hproduce⟩

/-- **An act of a search.** It returns what it has fetched or found, and adds at most what it has
    fetched. -/
theorem SearchSound.act (hbegin : .begin id s (.search index r form reply) ∈ es)
    (hrun : (World.init m).run es = some w) (hid : id < w.calls.length)
    (h : SearchSound m es id s (r.key index) stage)
    (hact : s.searchAct index r reply w.server stage a = some (stage', server')) :
    SearchSound m (es ++ [.act id a]) id s (r.key index) stage'
      ∧ Adds (es ++ [.act id a]) (.act id a) w.server.store server'.store := by
  unfold Searcher.searchAct at hact
  split at hact
  · -- looking
    split at hact
    · cases hact
      exact ⟨trivial, .refl⟩
    · rename_i v hlookUp
      cases hact
      refine ⟨?_, .refl⟩
      cases hv : v.isNull with
      | true => trivial
      | false => exact .inr ⟨es, [], w, rfl, hrun, hid, hlookUp, hv⟩
  · -- sending
    split at hact
    · rename_i hnone
      cases hact
      refine ⟨?_, .refl⟩
      cases hanswer : s.answer index r reply with
      | error e => trivial
      | ok j =>
        -- an answer is one to a request that was sent
        obtain ⟨c, url, -, -, hsent⟩ := Service.sent_of_outcome hanswer
        rw [hnone] at hsent
        cases hsent
    · cases hact
      exact ⟨trivial, .refl⟩
  · -- asking
    cases hact
    exact ⟨List.mem_append_right es List.mem_cons_self, .refl⟩
  · -- replied
    have hproduce : Event.act id .produce ∈ es := h
    split at hact
    · cases hact
      exact ⟨trivial, .refl⟩
    · rename_i hanswer
      cases hact
      exact ⟨.inl ((fetched_of_answer hbegin hproduce hanswer).append _), .refl⟩
    · cases hact
      exact ⟨List.mem_append_left _ hproduce, .refl⟩
  · -- keeping
    have hproduce : Event.act id .produce ∈ es := h
    split at hact
    · cases hact
    · rename_i j hanswer
      have hfetched := fetched_of_answer hbegin hproduce hanswer
      split at hact
      · cases hact
        exact ⟨trivial, .refl⟩
      · rename_i server₁ hkeep
        cases hact
        refine ⟨.inl (hfetched.append _), ?_⟩
        intro key t ht
        have hj := Service.readable_of_outcome hanswer
        rcases Searcher.get?_of_keep hj hkeep ht with hold | ⟨rfl, rfl⟩
        · exact .inl hold
        · exact .inr ⟨j.toValue, id, rfl, Service.decode_write hanswer, hfetched.append _⟩
  · -- returning
    rename_i x
    cases hact
    have hreturned := h.append (e := Event.act id .finish)
    refine ⟨?_, .refl⟩
    rcases x with (_ | _) | _ <;> exact hreturned
  · cases hact

/-- Removing a key adds nothing. -/
theorem adds_of_erase {es : List Event} {e : Event} {store : Store} (k : String) :
    Adds es e store (store.erase k) := by
  intro key t ht
  exact .inl (Store.get?_of_erase ht).2

/-- The keys that are listed are all that match. -/
theorem cleared_of_scan {i : Nat} {server : Server} {keys : List String}
    (h : server.scan (indexPattern index) m = .ok keys) (hlist : .act i .list ∈ es) :
    Cleared m es server.store i index keys := by
  refine ⟨hlist, fun key t ht hmatch => .inl ?_⟩
  have hmem : key ∈ server.store.map Prod.fst := by
    by_contra hnot
    rw [Store.get?_eq_none_iff.mpr hnot] at ht
    cases ht
  unfold Server.scan at h
  split at h
  · cases h
  · cases h
    exact List.mem_filter.mpr ⟨hmem, hmatch⟩

/-- A key that is removed is not left. -/
theorem Cleared.erase {i : Nat} {store : Store} {k : String} {rest : List String}
    (h : Cleared m es store i index (k :: rest)) : Cleared m es (store.erase k) i index rest := by
  refine ⟨h.1, fun key t ht hmatch => ?_⟩
  obtain ⟨hkey, hbefore⟩ := Store.get?_of_erase ht
  refine (h.2 key t hbefore hmatch).imp_left fun hleft => ?_
  exact (List.mem_cons.mp hleft).resolve_left hkey

/-- **An act of an invalidation over a connected link** leaves the keys that are still to be
    removed. -/
theorem InvalidationSound.act {server : Server} (hlinked : s.IsLinked)
    (h : InvalidationSound m es server.store id index stage)
    (hact : s.invalidateAct index m server stage a = some (stage', server')) :
    InvalidationSound m (es ++ [.act id a]) server'.store id index stage' := by
  unfold Searcher.invalidateAct at hact
  split at hact
  · -- listing
    obtain ⟨l, hlink, hconnected⟩ := hlinked
    rw [hlink] at hact
    simp only [hconnected, Bool.not_true, Bool.false_eq_true, if_false] at hact
    split at hact
    · cases hact
      trivial
    · rename_i keys hscan
      cases hact
      exact cleared_of_scan hscan (List.mem_append_right es List.mem_cons_self)
  · -- removing a key
    rename_i k rest n
    split at hact
    · cases hact
      trivial
    · rename_i m server₁ hdelete
      have herase := Server.store_of_delete hdelete
      cases hact
      rw [herase]
      exact (Cleared.append h .refl).erase
  · -- all keys removed
    cases hact
    exact Cleared.append h .refl
  · -- returning
    rename_i x
    cases hact
    have hreturned := InvalidationSound.append (e := Event.act id .finish) h .refl
    rcases x with _ | (_ | _) <;> exact hreturned
  · cases hact

/-- An act of an invalidation adds nothing. -/
theorem adds_of_invalidateAct {server : Server} (e : Event)
    (hact : s.invalidateAct index m server stage a = some (stage', server')) :
    Adds es e server.store server'.store := by
  rcases Searcher.invalidateAct_cases hact with
    ⟨keys, -, -, rfl⟩ | ⟨k, rest, n, n', -, hdelete, -⟩ | ⟨-, rfl⟩
  · exact .refl
  · rw [Server.store_of_delete hdelete]
    exact adds_of_erase _
  · exact .refl

end

namespace OpenCall

variable {es : List Event} {w : World} {id : Nat} {t t' : OpenCall} {a : Act} {server' : Server}
  {m : Matcher}

/-- An act changes how far a call has come. -/
theorem act_eq_some {server : Server} (h : t.act m server a = some (t', server')) :
    t'.searcher = t.searcher ∧ t'.call = t.call := by
  obtain ⟨⟨stage, server₁⟩, -, heq⟩ := Option.map_eq_some_iff.mp h
  cases heq
  exact ⟨rfl, rfl⟩

/-- **An act of a call.** -/
theorem Sound.act (hbegin : .begin id t.searcher t.call ∈ es)
    (hrun : (World.init m).run es = some w) (hid : id < w.calls.length)
    (h : t.Sound m es w.server.store id)
    (hact : t.act m w.server a = some (t', server')) :
    t'.Sound m (es ++ [.act id a]) server'.store id
      ∧ Adds (es ++ [.act id a]) (.act id a) w.server.store server'.store := by
  obtain ⟨⟨stage, server₁⟩, hnext, heq⟩ := Option.map_eq_some_iff.mp hact
  cases heq
  obtain ⟨s, c, stage₀⟩ := t
  cases c with
  | search index r form reply => exact SearchSound.act hbegin hrun hid h hnext
  | invalidate index =>
    exact ⟨fun hlinked => InvalidationSound.act hlinked (h hlinked) hnext,
      adds_of_invalidateAct _ hnext⟩

/-- A call that has returned does nothing more. -/
theorem act_of_returned {x : Returned} {server : Server} (h : t.stage = .returned x) :
    t.act m server a = none := by
  obtain ⟨s, c, stage⟩ := t
  cases h
  cases c <;> cases a <;> rfl

/-- Who finishes has returned. -/
theorem returned_of_finish {server : Server} (h : t.act m server .finish = some (t', server')) :
    ∃ x, t'.stage = .returned x := by
  obtain ⟨⟨stage, server₁⟩, hnext, heq⟩ := Option.map_eq_some_iff.mp h
  cases heq
  obtain ⟨s, c, stage₀⟩ := t
  -- only what is about to return can finish, and an invalidation with no keys left
  cases c with
  | search index r form reply =>
    cases stage₀ with
    | returning x =>
      cases hnext
      exact ⟨x, rfl⟩
    | _ => cases hnext
  | invalidate index =>
    cases stage₀ with
    | returning x =>
      cases hnext
      exact ⟨x, rfl⟩
    | removing keys n =>
      cases keys with
      | nil =>
        cases hnext
        exact ⟨_, rfl⟩
      | cons k rest => cases hnext
    | _ => cases hnext

end OpenCall

/-! ### All calls -/

/-- **What is so of a world that events have led to.** -/
structure Consistent (m : Matcher) (es : List Event) (w : World) : Prop where
  /-- The server reads patterns as it did. -/
  reads : w.matcher = m
  /-- Every call has been made. -/
  begun : ∀ id (t : OpenCall), w.calls[id]? = some t → .begin id t.searcher t.call ∈ es
  /-- Only calls that have been made act. -/
  known : ∀ id a, .act id a ∈ es → id < w.calls.length
  /-- Calls that have acted before another one began have lower numbers. -/
  ordered : ∀ id a i s c, Precedes es (.act id a) (.begin i s c) → id < i
  /-- Calls that have finished have returned. -/
  finished : ∀ id (t : OpenCall), .act id .finish ∈ es → w.calls[id]? = some t →
    ∃ x, t.stage = .returned x
  /-- All calls have done what they should. -/
  sound : ∀ id (t : OpenCall), w.calls[id]? = some t → t.Sound m es w.server.store id

namespace Consistent

variable {m : Matcher} {es : List Event} {w w' : World}

/-- The invariant holds before anything has happened. -/
theorem init : Consistent m [] (World.init m) where
  reads := rfl
  begun := fun _ _ h => by cases h
  known := fun _ _ h => by cases h
  ordered := fun _ _ _ _ _ h => by cases h.mem_left
  finished := fun _ _ h => by cases h
  sound := fun _ _ h => by cases h

/-- A call is one of those made before, or the one made last. -/
theorem getElem?_concat_cases {calls : List OpenCall} {id : Nat} {t x : OpenCall}
    (h : (calls ++ [x])[id]? = some t) : calls[id]? = some t ∨ (id = calls.length ∧ t = x) := by
  rcases Nat.lt_trichotomy id calls.length with hlt | rfl | hgt
  · rw [List.getElem?_append_left hlt] at h
    exact .inl h
  · rw [List.getElem?_concat_length] at h
    exact .inr ⟨rfl, (Option.some.inj h).symm⟩
  · have hnone : (calls ++ [x])[id]? = none := by
      rw [List.getElem?_eq_none_iff, List.length_append, List.length_singleton]
      exact hgt
    rw [hnone] at h
    cases h

/-- **A call that begins keeps the invariant.** -/
theorem begin (h : Consistent m es w) (s : Searcher) (c : Call) :
    Consistent m (es ++ [.begin w.calls.length s c])
      { w with calls := w.calls ++ [⟨s, c, c.start⟩] } where
  reads := h.reads
  begun := by
    intro id t ht
    rcases getElem?_concat_cases ht with hold | ⟨rfl, rfl⟩
    · exact List.mem_append_left _ (h.begun id t hold)
    · exact List.mem_append_right _ List.mem_cons_self
  known := by
    intro id a hact
    rw [List.length_append]
    have hold : Event.act id a ∈ es := by simpa using hact
    exact Nat.lt_add_right 1 (h.known id a hold)
  ordered := by
    intro id a i s' c' hprec
    rcases precedes_concat_iff.mp hprec with hold | ⟨hact, hlast⟩
    · exact h.ordered id a i s' c' hold
    · cases hlast
      exact h.known id a hact
  finished := by
    intro id t hfinish ht
    have hold : Event.act id .finish ∈ es := by simpa using hfinish
    rcases getElem?_concat_cases ht with hbefore | ⟨rfl, rfl⟩
    · exact h.finished id t hold hbefore
    · exact absurd (h.known _ _ hold) (Nat.lt_irrefl _)
  sound := by
    intro id t ht
    rcases getElem?_concat_cases ht with hold | ⟨rfl, rfl⟩
    · exact (h.sound id t hold).append .refl
    · cases c with
      | search index r form reply => trivial
      | invalidate index => exact fun _ => trivial

/-- What happens to the server by itself keeps the invariant. -/
theorem serve (h : Consistent m es w) {e : Event} (hact : ∀ id a, e ≠ .act id a)
    (hbegin : ∀ id s c, e ≠ .begin id s c) {server : Server}
    (hadds : Adds (es ++ [e]) e w.server.store server.store) :
    Consistent m (es ++ [e]) { w with server } where
  reads := h.reads
  begun := fun id t ht => List.mem_append_left _ (h.begun id t ht)
  -- the new event is no act of a call and begins none, so what is known of the calls is what was
  -- known
  known := by
    intro id a hmem
    rcases List.mem_append.mp hmem with hold | hlast
    · exact h.known id a hold
    · exact absurd (List.mem_singleton.mp hlast).symm (hact id a)
  ordered := by
    intro id a i s c hprec
    rcases precedes_concat_iff.mp hprec with hold | ⟨-, hlast⟩
    · exact h.ordered id a i s c hold
    · exact absurd hlast.symm (hbegin i s c)
  finished := by
    intro id t hfinish ht
    rcases List.mem_append.mp hfinish with hold | hlast
    · exact h.finished id t hold ht
    · exact absurd (List.mem_singleton.mp hlast).symm (hact id .finish)
  sound := fun id t ht => (h.sound id t ht).append hadds

/-- **An act of a call keeps the invariant.** The other calls stay as they are, and what the act
    adds to the store is no more than what has been fetched. -/
theorem act (h : Consistent m es w) (hrun : (World.init m).run es = some w) {id : Nat} {a : Act}
    {t t' : OpenCall} {server' : Server} (ht : w.calls[id]? = some t)
    (hact : t.act w.matcher w.server a = some (t', server')) :
    Consistent m (es ++ [.act id a]) { w with server := server', calls := w.calls.set id t' } := by
  rw [h.reads] at hact
  have hid : id < w.calls.length := (List.getElem?_eq_some_iff.mp ht).1
  obtain ⟨hsearcher, hcall⟩ := OpenCall.act_eq_some hact
  have hbegin := h.begun id t ht
  obtain ⟨hsound, hadds⟩ := OpenCall.Sound.act hbegin hrun hid (h.sound id t ht) hact
  -- only the call that acts is changed
  have hcalls : ∀ j x, (w.calls.set id t')[j]? = some x →
      (j = id ∧ x = t') ∨ (j ≠ id ∧ w.calls[j]? = some x) := by
    intro j x hx
    by_cases hj : j = id
    · subst hj
      rw [List.getElem?_set_self hid] at hx
      exact .inl ⟨rfl, (Option.some.inj hx).symm⟩
    · rw [List.getElem?_set_ne (Ne.symm hj)] at hx
      exact .inr ⟨hj, hx⟩
  constructor
  case reads => exact h.reads
  case begun =>
    intro j x hx
    -- the call that acts began before this act, and every other one is as it was
    rcases hcalls j x hx with ⟨rfl, rfl⟩ | ⟨-, hold⟩
    · rw [hsearcher, hcall]
      exact List.mem_append_left _ hbegin
    · exact List.mem_append_left _ (h.begun j x hold)
  case known =>
    intro j b hmem
    rw [List.length_set]
    rcases List.mem_append.mp hmem with hold | hlast
    · exact h.known j b hold
    · cases List.mem_singleton.mp hlast
      exact hid
  case ordered =>
    intro j b i s c hprec
    rcases precedes_concat_iff.mp hprec with hold | ⟨-, hlast⟩
    · exact h.ordered j b i s c hold
    · cases hlast
  case finished =>
    intro j x hfinish hx
    rcases hcalls j x hx with ⟨rfl, rfl⟩ | ⟨hne, hold⟩
    · rcases List.mem_append.mp hfinish with hbefore | hlast
      · -- what has returned does not act
        obtain ⟨y, hy⟩ := h.finished j t hbefore ht
        rw [OpenCall.act_of_returned hy] at hact
        cases hact
      · cases List.mem_singleton.mp hlast
        exact OpenCall.returned_of_finish hact
    · rcases List.mem_append.mp hfinish with hbefore | hlast
      · exact h.finished j x hbefore hold
      · cases List.mem_singleton.mp hlast
        exact absurd rfl hne
  case sound =>
    intro j x hx
    -- the call that acts is sound by its own step; of every other one no more is asked than that
    -- the store only gained what the act adds
    rcases hcalls j x hx with ⟨rfl, rfl⟩ | ⟨-, hold⟩
    · exact hsound
    · exact (h.sound j x hold).append hadds

/-- **Every event keeps the invariant.** -/
theorem step (h : Consistent m es w) (hrun : (World.init m).run es = some w) {e : Event}
    (hstep : w.step e = some w') : Consistent m (es ++ [e]) w' := by
  -- one case for each kind of event; the last two touch the store alone
  cases e with
  | begin id s c =>
    rw [World.step] at hstep
    split at hstep
    · rename_i hid
      subst hid
      cases hstep
      exact h.begin s c
    · cases hstep
  | act id a =>
    rw [World.step] at hstep
    split at hstep
    · cases hstep
    · rename_i t ht
      obtain ⟨⟨t', server'⟩, hact, heq⟩ := Option.map_eq_some_iff.mp hstep
      cases heq
      exact h.act hrun ht hact
  | expiry key =>
    cases hstep
    exact h.serve (fun _ _ heq => by cases heq) (fun _ _ _ heq => by cases heq) (adds_of_erase key)
  | outage o =>
    cases hstep
    exact h.serve (fun _ _ heq => by cases heq) (fun _ _ _ heq => by cases heq) .refl

end Consistent

namespace World

/-- **The invariant holds of every world that events have led to.** -/
theorem consistent_of_run {m : Matcher} {es : List Event} {w : World}
    (hrun : (init m).run es = some w) : Consistent m es w := by
  induction es using List.reverseRecOn generalizing w with
  | nil =>
    cases hrun
    exact .init
  | append_singleton es e ih =>
    rw [run_concat] at hrun
    obtain ⟨w₀, hrun₀, hstep⟩ := Option.bind_eq_some_iff.mp hrun
    exact (ih hrun₀).step hrun₀ hstep

/-- What a call has returned stays what it has returned. -/
theorem getElem?_of_returned {w w' : World} {es : List Event} {i : Nat} {t : OpenCall}
    {x : Returned} (hrun : w.run es = some w') (ht : w.calls[i]? = some t)
    (hx : t.stage = .returned x) :
    w'.calls[i]? = some t := by
  -- induction on the events: no step of another call touches this one
  induction es generalizing w with
  | nil =>
    cases hrun
    exact ht
  | cons e es ih =>
    rw [run, List.foldlM_cons] at hrun
    obtain ⟨w₁, hstep, hrest⟩ := Option.bind_eq_some_iff.mp hrun
    refine ih hrest ?_
    cases e with
    | begin id s c =>
      rw [step] at hstep
      split at hstep
      · cases hstep
        rw [List.getElem?_append_left (List.getElem?_eq_some_iff.mp ht).1]
        exact ht
      · cases hstep
    | act id a =>
      rw [step] at hstep
      split at hstep
      · cases hstep
      · rename_i u hu
        obtain ⟨⟨u', server⟩, hact, heq⟩ := Option.map_eq_some_iff.mp hstep
        cases heq
        by_cases hid : id = i
        · -- what has returned does not act
          subst hid
          obtain rfl := Option.some.inj (ht.symm.trans hu)
          rw [OpenCall.act_of_returned hx] at hact
          cases hact
        · rw [List.getElem?_set_ne hid]
          exact ht
    | expiry key =>
      cases hstep
      exact ht
    | outage o =>
      cases hstep
      exact ht

end World

end IndexSearch
