import IndexSearch.Request.Draft
import Mathlib.Data.List.Induction

namespace IndexSearch

/-!
# What a draft makes of its history

Of all that is set on a draft, only the last accepted value of each option counts. An option is
written out when it is set, and whether that goes well has nothing to do with the draft: so setting
an option is to replace one part of the draft by a `Setting`. Settings of one kind replace each
other, settings of two kinds do not meet, and building changes nothing.

* `Draft.set_eq` — setting an option puts its setting, if it has one;
* `lastAccepted` — the last option of a kind that a history of calls has and that is accepted;
* `Draft.agreeOn_ofCalls` — each part of a draft is what its last accepted option makes of it;
* `Draft.history_law` — what comes of later calls is a matter of the last accepted options alone.
-/

/-! ### Options as they are kept -/

/-- The options of a request. -/
inductive OptionKind where
  /-- The filter. -/
  | filter
  /-- The sort clauses. -/
  | sort
  /-- The facets to compute. -/
  | facets
  /-- The number of results to pass over. -/
  | skip
  /-- The number of results to return. -/
  | top
  /-- The text to search for. -/
  | fullText
  /-- Whether all results are counted. -/
  | totalCount
deriving DecidableEq

/-- What a draft keeps of an option. -/
inductive Setting where
  /-- The filter, written out. -/
  | filter (written : String)
  /-- The clauses for the sort keys. -/
  | sort (clauses : List String)
  /-- The facets. -/
  | facets (values : List Value)
  /-- The number of results to pass over. -/
  | skip (n : Nat)
  /-- The number of results to return. -/
  | top (n : Nat)
  /-- The text to search for. -/
  | fullText (v : Value)
  /-- That all results are counted. -/
  | totalCount

/-- The option that is kept. -/
def Setting.kind : Setting → OptionKind
  | filter _ => .filter
  | sort _ => .sort
  | facets _ => .facets
  | skip _ => .skip
  | top _ => .top
  | fullText _ => .fullText
  | totalCount => .totalCount

namespace SearchOption

/-- The option that is set. Sort keys can be given in two ways. -/
def kind : SearchOption → OptionKind
  | filter _ => .filter
  | sort _ | sortValue _ => .sort
  | facets _ => .facets
  | skip _ => .skip
  | top _ => .top
  | fullText _ => .fullText
  | totalCount => .totalCount

/-- What is kept of the option, or why it is refused. -/
def setting : SearchOption → Except QueryError Setting
  | filter f => f.compile.map .filter
  | sort keys => (sortClauses keys).map .sort
  | sortValue v =>
    (do sortClauses ((← Draft.elementsOf v).map fun x => .other (.value x))).map .sort
  | facets v => (Draft.facetsOf v).map .facets
  | skip v => (Draft.countOf .skip v).map .skip
  | top v => (Draft.countOf .top v).map .top
  | fullText v => .ok (.fullText v)
  | totalCount => .ok .totalCount

/-- Whether the option is accepted when it is set first of all. -/
def isAccepted (o : SearchOption) : Bool := (Draft.set {} o).isOk

/-- What is kept of an option is of its kind. -/
theorem kind_of_setting {o : SearchOption} {x : Setting} (h : o.setting = .ok x) :
    x.kind = o.kind := by
  -- a setting that is read comes from the value by a constructor, whatever is read of the value
  have hmap : ∀ {α : Type} (e : Except QueryError α) (f : α → Setting), e.map f = .ok x →
      ∃ a, x = f a := by
    intro α e f he
    cases e with
    | error _ => cases he
    | ok a => exact ⟨a, (Except.ok.inj he).symm⟩
  cases o with
  | fullText v =>
    cases h
    rfl
  | totalCount =>
    cases h
    rfl
  | _ =>
    obtain ⟨a, rfl⟩ := hmap _ _ h
    rfl

end SearchOption

namespace Draft

/-- The draft with a setting in the place of what it has for the same option. -/
def put (d : Draft) : Setting → Draft
  | .filter written => { d with filter := some written }
  | .sort clauses => { d with orderBy := clauses }
  | .facets values => { d with facets := values }
  | .skip n => { d with skip := some n }
  | .top n => { d with top := some n }
  | .fullText v => { d with fullText := v }
  | .totalCount => { d with includeTotalCount := true }

/-- To compute what is put into a draft and then put it is to put what is computed. -/
theorem map_put {α : Type} (e : Except QueryError α) (keep : α → Setting) (d : Draft) :
    (e >>= fun a => pure (d.put (keep a))) = (e.map keep).map d.put := by
  cases e <;> rfl

/-- **Setting an option** puts what is kept of it, and the draft has no part in whether it is
    refused. -/
theorem set_eq (d : Draft) (o : SearchOption) : d.set o = o.setting.map d.put := by
  -- each setter writes the option out first, without looking at the draft
  cases o with
  | filter f => exact map_put f.compile .filter d
  | sort keys => exact map_put (sortClauses keys) .sort d
  | sortValue v =>
    show (elementsOf v >>= fun xs => d.setSort (xs.map fun x => .other (.value x)))
      = ((elementsOf v >>= fun xs => sortClauses (xs.map fun x => .other (.value x))).map
        Setting.sort).map d.put
    cases elementsOf v with
    | error e => rfl
    | ok xs => exact map_put (sortClauses (xs.map fun x => .other (.value x))) .sort d
  | facets v => exact map_put (facetsOf v) .facets d
  | skip v => exact map_put (countOf .skip v) .skip d
  | top v => exact map_put (countOf .top v) .top d
  | fullText v => rfl
  | totalCount => rfl

/-- An option is accepted if there is something to keep of it. -/
theorem isAccepted_eq (o : SearchOption) : o.isAccepted = o.setting.isOk := by
  rw [SearchOption.isAccepted, set_eq]
  cases o.setting <;> rfl

/-- An option that has a setting is put into the draft. -/
theorem after_of_setting_ok {d : Draft} {o : SearchOption} {x : Setting} (h : o.setting = .ok x) :
    d.after o = d.put x := by
  apply after_of_ok
  rw [set_eq, h]
  rfl

/-- An option that has none leaves the draft as it is. -/
theorem after_of_setting_error {d : Draft} {o : SearchOption} {e : QueryError}
    (h : o.setting = .error e) : d.after o = d := by
  apply after_of_error
  rw [set_eq, h]
  rfl

/-! ### Parts of a draft -/

/-- Whether two drafts have the same for an option. -/
def AgreeOn (k : OptionKind) (d d' : Draft) : Prop :=
  match k with
  | .filter => d.filter = d'.filter
  | .sort => d.orderBy = d'.orderBy
  | .facets => d.facets = d'.facets
  | .skip => d.skip = d'.skip
  | .top => d.top = d'.top
  | .fullText => d.fullText = d'.fullText
  | .totalCount => d.includeTotalCount = d'.includeTotalCount

variable {k : OptionKind} {d d' d'' : Draft}

/-- A draft agrees with itself. -/
theorem AgreeOn.refl (k : OptionKind) (d : Draft) : AgreeOn k d d := by
  cases k <;> rfl

/-- Drafts agree with each other. -/
theorem AgreeOn.symm (h : AgreeOn k d d') : AgreeOn k d' d := by
  cases k <;> exact Eq.symm h

/-- Drafts that agree with a third one agree. -/
theorem AgreeOn.trans (h : AgreeOn k d d') (h' : AgreeOn k d' d'') : AgreeOn k d d'' := by
  cases k <;> exact Eq.trans h h'

/-- A draft has nothing but its options. -/
theorem eq_of_agreeOn (h : ∀ k, AgreeOn k d d') : d = d' := by
  have hfilter : d.filter = d'.filter := h .filter
  have hsort : d.orderBy = d'.orderBy := h .sort
  have hfacets : d.facets = d'.facets := h .facets
  have hskip : d.skip = d'.skip := h .skip
  have htop : d.top = d'.top := h .top
  have htext : d.fullText = d'.fullText := h .fullText
  have hcount : d.includeTotalCount = d'.includeTotalCount := h .totalCount
  cases d
  cases d'
  simp_all

/-- What a draft had for an option does not count once the option is put. -/
theorem agreeOn_put_self (d d' : Draft) (x : Setting) : AgreeOn x.kind (d.put x) (d'.put x) := by
  cases x <;> rfl

/-- Putting an option leaves the others alone. -/
theorem agreeOn_put_of_ne {x : Setting} (h : x.kind ≠ k) : AgreeOn k (d.put x) d := by
  cases x <;> cases k <;> first | rfl | exact absurd rfl h

end Draft

/-! ### Histories -/

/-- One use of a draft. -/
inductive DraftCall where
  /-- An option is set. -/
  | set (o : SearchOption)
  /-- The request is built. -/
  | build

/-- What comes of one use of a draft. -/
inductive DraftReply where
  /-- The option is set. -/
  | accepted
  /-- The option is refused. -/
  | refused (e : QueryError)
  /-- The request, or what is wrong with it. -/
  | built (r : Checked SearchRequest)

/-- The option of a kind that a call sets, if it does and the option is accepted. -/
def DraftCall.takes? (k : OptionKind) : DraftCall → Option SearchOption
  | set o => if o.kind = k && o.isAccepted then some o else none
  | build => none

/-- The last option of a kind that is set by calls and accepted. -/
def lastAccepted (k : OptionKind) (calls : List DraftCall) : Option SearchOption :=
  calls.reverse.findSome? (DraftCall.takes? k)

/-- Whether the last accepted options of two histories are the same: for each option the last value
    that is accepted, and whether all results are to be counted, which is never refused. -/
structure SameOptions (xs ys : List DraftCall) : Prop where
  /-- The values are the same. -/
  last : ∀ k, k ≠ .totalCount → lastAccepted k xs = lastAccepted k ys
  /-- Counting is asked for in both or in none. -/
  counted : .set .totalCount ∈ xs ↔ .set .totalCount ∈ ys

namespace Draft

/-- What comes of a call. -/
def reply (d : Draft) : DraftCall → DraftReply
  | .set o =>
    match d.set o with
    | .ok _ => .accepted
    | .error e => .refused e
  | .build => .built d.build

/-- The draft after a call. -/
def afterCall (d : Draft) : DraftCall → Draft
  | .set o => d.after o
  | .build => d

/-- What comes of calls, one after the other. -/
def replies (d : Draft) : List DraftCall → List DraftReply
  | [] => []
  | c :: r => d.reply c :: (d.afterCall c).replies r

/-- The draft after calls; at first nothing is set. -/
def ofCalls (calls : List DraftCall) : Draft := calls.foldl afterCall {}

/-- Whether it makes no difference to any later calls which of two histories a draft has. -/
def Interchangeable (xs ys : List DraftCall) : Prop :=
  ∀ later, (ofCalls xs).replies later = (ofCalls ys).replies later

/-- An option is refused whatever was set before, or never. -/
theorem reply_set_eq_accepted_iff {d : Draft} {o : SearchOption} :
    d.reply (.set o) = .accepted ↔ o.isAccepted = true := by
  rw [reply, set_eq, isAccepted_eq]
  cases o.setting with
  | ok x => exact iff_of_true rfl rfl
  | error e => exact iff_of_false (fun h => by cases h) (fun h => by cases h)

end Draft

/-! ### The last accepted option -/

section LastAccepted

variable {k : OptionKind} {xs ys : List DraftCall} {c : DraftCall} {o : SearchOption}

/-- The last option accepted is that of the later calls, if there is one among them. -/
theorem lastAccepted_append :
    lastAccepted k (xs ++ ys) = (lastAccepted k ys).or (lastAccepted k xs) := by
  rw [lastAccepted, List.reverse_append, List.findSome?_append]
  rfl

/-- Of a single call the last option accepted is the one it sets. -/
theorem lastAccepted_singleton : lastAccepted k [c] = c.takes? k := by
  rw [lastAccepted, List.reverse_singleton, List.findSome?_cons]
  cases c.takes? k <;> rfl

/-- A first call counts only if none of the later ones is accepted. -/
theorem lastAccepted_cons : lastAccepted k (c :: xs) = (lastAccepted k xs).or (c.takes? k) := by
  rw [← List.singleton_append, lastAccepted_append, lastAccepted_singleton]

/-- A call is taken for a kind if it sets an option of the kind that is accepted. -/
theorem takes?_eq_some_iff :
    c.takes? k = some o ↔ c = .set o ∧ o.kind = k ∧ o.isAccepted = true := by
  cases c with
  | build => simp [DraftCall.takes?]
  | set o' =>
    simp only [DraftCall.takes?, Bool.and_eq_true, decide_eq_true_eq, DraftCall.set.injEq]
    constructor
    · intro h
      split at h
      · cases h
        exact ⟨rfl, ‹_›⟩
      · cases h
    · rintro ⟨rfl, h⟩
      rw [if_pos h]

/-- An option of another kind is not taken. -/
theorem takes?_eq_none_of_ne (h : o.kind ≠ k) : (DraftCall.set o).takes? k = none := by
  simp [DraftCall.takes?, h]

/-- An option that is refused is not taken for any kind. -/
theorem takes?_eq_none_of_refused (h : o.isAccepted = false) :
    (DraftCall.set o).takes? k = none := by
  simp [DraftCall.takes?, h]

/-- Counting has no value, so the last accepted option that asks for it is the only one there
    is. -/
theorem lastAccepted_totalCount_eq_some_iff :
    lastAccepted .totalCount xs = some o ↔ o = .totalCount ∧ .set .totalCount ∈ xs := by
  -- the last accepted call of this kind is the option itself, since no other option has the kind
  have honly : ∀ o, lastAccepted .totalCount xs = some o →
      o = .totalCount ∧ .set .totalCount ∈ xs := by
    intro o h
    obtain ⟨c, hc, htakes⟩ := List.exists_of_findSome?_eq_some h
    obtain ⟨rfl, hkind, -⟩ := takes?_eq_some_iff.mp htakes
    have ho : o = .totalCount := by cases o <;> first | rfl | cases hkind
    subst ho
    exact ⟨rfl, List.mem_reverse.mp hc⟩
  refine ⟨honly o, ?_⟩
  rintro ⟨rfl, hmem⟩
  -- were there no accepted call of the kind, this one would have been refused
  cases hlast : lastAccepted .totalCount xs with
  | none =>
    have hnone := List.findSome?_eq_none_iff.mp hlast _ (List.mem_reverse.mpr hmem)
    cases hnone
  | some o' => rw [(honly o' hlast).1]

/-- Histories with the same options for each kind have the same last one. -/
theorem SameOptions.lastAccepted_eq (h : SameOptions xs ys) (k : OptionKind) :
    lastAccepted k xs = lastAccepted k ys := by
  by_cases hk : k = .totalCount
  · subst hk
    apply Option.ext
    intro o
    rw [lastAccepted_totalCount_eq_some_iff, lastAccepted_totalCount_eq_some_iff, h.counted]
  · exact h.last k hk

end LastAccepted

/-! ### Draft and history -/

namespace Draft

variable {xs ys : List DraftCall} {o o' : SearchOption}

/-- Calls that follow others are made on the draft that these have left. -/
theorem ofCalls_append (xs ys : List DraftCall) :
    ofCalls (xs ++ ys) = ys.foldl afterCall (ofCalls xs) := List.foldl_append

/-- **Each part of a draft is what its last accepted option makes of it**; without one it is as it
    was at first. -/
theorem agreeOn_ofCalls (k : OptionKind) (calls : List DraftCall) :
    AgreeOn k (ofCalls calls) (match lastAccepted k calls with
      | none => {}
      | some o => after {} o) := by
  -- induction on the calls, the last one first: only it can replace what is set
  induction calls using List.reverseRecOn with
  | nil => exact AgreeOn.refl k _
  | append_singleton calls c ih =>
    rw [ofCalls_append, lastAccepted_append, lastAccepted_singleton]
    cases c with
    | build => exact ih
    | set o =>
      show AgreeOn k ((ofCalls calls).after o) _
      cases hset : o.setting with
      | error e =>
        -- a refused option leaves the draft, and is not among the accepted ones
        have hrefused : o.isAccepted = false := by rw [isAccepted_eq, hset]; rfl
        rw [after_of_setting_error hset, takes?_eq_none_of_refused hrefused]
        exact ih
      | ok x =>
        have haccepted : o.isAccepted = true := by rw [isAccepted_eq, hset]; rfl
        have hkind := SearchOption.kind_of_setting hset
        rw [after_of_setting_ok hset]
        by_cases hk : o.kind = k
        · -- what was set before for this option is replaced
          rw [takes?_eq_some_iff.mpr ⟨rfl, hk, haccepted⟩]
          show AgreeOn k _ (after {} o)
          rw [after_of_setting_ok hset, ← hk, ← hkind]
          exact agreeOn_put_self _ _ x
        · -- another option is left as it was
          rw [takes?_eq_none_of_ne hk]
          apply AgreeOn.trans _ ih
          apply agreeOn_put_of_ne
          rwa [hkind]

/-- Histories with the same last accepted options have the same draft. -/
theorem ofCalls_eq (h : ∀ k, lastAccepted k xs = lastAccepted k ys) : ofCalls xs = ofCalls ys := by
  apply eq_of_agreeOn
  intro k
  have hxs := agreeOn_ofCalls k xs
  rw [h k] at hxs
  exact hxs.trans (agreeOn_ofCalls k ys).symm

/-- Histories with the same last option for each kind can stand for each other. -/
theorem interchangeable_of_lastAccepted (h : ∀ k, lastAccepted k xs = lastAccepted k ys) :
    Interchangeable xs ys := by
  intro later
  rw [ofCalls_eq h]

/-- A call that nothing is taken of can be left out. -/
theorem interchangeable_of_takes? {c : DraftCall} (past after : List DraftCall)
    (h : ∀ k, c.takes? k = none ∨ (lastAccepted k after).isSome) :
    Interchangeable (past ++ c :: after) (past ++ after) := by
  apply interchangeable_of_lastAccepted
  intro k
  rw [lastAccepted_append, lastAccepted_append, lastAccepted_cons]
  congr 1
  rcases h k with hnone | hsome
  · rw [hnone, Option.or_none]
  · exact Option.or_of_isSome hsome

/-- **The last accepted options are all that a draft remembers.** Histories with the same ones can
    take each other's place: what comes of any later calls, requests and errors of `build` among
    them, is the same. So an option that is refused can be left out, as can one that a later one of
    its kind replaces; options of two kinds can change places; and a request can be built at any
    time. Whether an option is refused does not depend on what was set before. -/
theorem history_law :
    (∀ calls o, (ofCalls calls).reply (.set o) = .accepted ↔ o.isAccepted = true)
      ∧ (∀ xs ys, SameOptions xs ys → Interchangeable xs ys)
      ∧ (∀ past o after, o.isAccepted = false →
        Interchangeable (past ++ .set o :: after) (past ++ after))
      ∧ (∀ past o between o' after, o.kind = o'.kind → o'.isAccepted = true →
        Interchangeable (past ++ .set o :: (between ++ .set o' :: after))
          (past ++ (between ++ .set o' :: after)))
      ∧ (∀ past o o' after, o.kind ≠ o'.kind →
        Interchangeable (past ++ .set o :: .set o' :: after) (past ++ .set o' :: .set o :: after))
      ∧ (∀ past after, Interchangeable (past ++ .build :: after) (past ++ after)) := by
  refine ⟨fun calls o => reply_set_eq_accepted_iff, fun xs ys h => ?_, fun past o after ho => ?_,
    fun past o between o' after hkind ho' => ?_, fun past o o' after hkind => ?_,
    fun past after => ?_⟩
  · exact interchangeable_of_lastAccepted h.lastAccepted_eq
  · apply interchangeable_of_takes?
    intro k
    exact .inl (takes?_eq_none_of_refused ho)
  · apply interchangeable_of_takes?
    intro k
    by_cases hk : o.kind = k
    · -- the later option of the same kind is taken in its place
      right
      have htakes : (DraftCall.set o').takes? k = some o' :=
        takes?_eq_some_iff.mpr ⟨rfl, hkind ▸ hk, ho'⟩
      rw [lastAccepted_append, lastAccepted_cons, htakes]
      simp
    · exact .inl (takes?_eq_none_of_ne hk)
  · apply interchangeable_of_lastAccepted
    intro k
    rw [lastAccepted_append, lastAccepted_append]
    simp only [lastAccepted_cons]
    -- at most one of the two is of this kind
    by_cases hk : o.kind = k
    · rw [takes?_eq_none_of_ne (fun h => hkind (hk.trans h.symm)), Option.or_none, Option.or_none]
    · rw [takes?_eq_none_of_ne hk, Option.or_none, Option.or_none]
  · apply interchangeable_of_takes?
    intro k
    exact .inl rfl

/-- Numbers of results to pass over and to return: a negative one is refused, and of several the
    last one counts. -/
theorem history_law_paging :
    let skip (n : Int) : DraftCall := .set (.skip (.int n))
    let top (n : Int) : DraftCall := .set (.top (.int n))
    let count : DraftCall := .set .totalCount
    Interchangeable [count, skip 5, top 3, .build, skip (-1), skip 7, count] [skip 7, count, top 3]
      ∧ Interchangeable [skip 5, skip (-1), top 3] [skip 5, top 3]
      ∧ Interchangeable [skip 5, top 3, .build, skip 7] [top 3, .build, skip 7]
      ∧ Interchangeable [skip 5, top 3] [top 3, skip 5]
      ∧ Interchangeable [skip 5, .build, top 3] [skip 5, top 3] := by
  -- each of the laws is used once, in the order in which they are stated
  intro skip top count
  obtain ⟨-, hsame, hrefused, hreplaced, hswapped, hbuilt⟩ := history_law
  refine ⟨hsame _ _ ⟨fun k hk => ?_, by simp [count]⟩, hrefused [skip 5] _ [top 3] rfl,
    hreplaced [] _ [top 3, .build] _ [] rfl rfl, hswapped [] _ _ [] (by decide),
    hbuilt [skip 5] [top 3]⟩
  cases k with
  | totalCount => exact absurd rfl hk
  | _ => rfl

end Draft

end IndexSearch
