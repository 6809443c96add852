import IndexSearch.Proofs.FilterReading

namespace IndexSearch

/-!
# When a filter means what its text says

A filter is written without parentheses, and the service reads its text with the precedence of the
language: `and` binds more tightly than `or`. The text is true if all leaves of one of its **runs**
are, where a run is as long a row of leaves as `and` joins.

The two readings agree exactly if no `or` stands directly below an `and`:

* `holds_eq_of_nestsOr_eq_false` — if there is no such place, the text means what the filter means;
* `differs_of_nestsOr` — if there is one, and the leaves are independent of one another,
  the text can be true where the filter is false;
* `Filter.precedence` — both, for the text as it is written and read.
-/

namespace Chain

variable {α : Type}

/-! ### The truth of a chain -/

/-- The runs of a chain that has begun with a run: `and` goes on with it and `or` ends it. -/
def runsFrom (run : List α) : List (Combiner × α) → List (List α)
  | [] => [run]
  | (.and, a) :: r => runsFrom (run ++ [a]) r
  | (.or, a) :: r => run :: runsFrom [a] r

/-- The longest rows of neighbours that `and` joins. -/
def runs (s : Chain α) : List (List α) := runsFrom [s.first] s.rest

/-- Whether a chain holds: all of one of its runs do. -/
def holds (v : α → Bool) (s : Chain α) : Bool := s.runs.any fun run => run.all v

/-- Whether a chain holds of which a run with the truth value `b` has been read. -/
def holdsFrom (v : α → Bool) (b : Bool) : List (Combiner × α) → Bool
  | [] => b
  | (.and, a) :: r => holdsFrom v (b && v a) r
  | (.or, a) :: r => b || holdsFrom v (v a) r

variable {v : α → Bool}

/-- Some run holds exactly if the chain does, read from left to right. -/
theorem any_runsFrom (run : List α) (r : List (Combiner × α)) :
    (runsFrom run r).any (fun run => run.all v) = holdsFrom v (run.all v) r := by
  induction r generalizing run with
  | nil => simp [runsFrom, holdsFrom]
  | cons p r ih =>
    obtain ⟨c, a⟩ := p
    cases c with
    | and => simp [runsFrom, holdsFrom, ih]
    | or => simp [runsFrom, holdsFrom, ih]

/-- A chain is read from left to right. -/
theorem holds_eq_holdsFrom (s : Chain α) : s.holds v = holdsFrom v (v s.first) s.rest := by
  rw [holds, runs, any_runsFrom]
  simp

/-- A single link holds if it does. -/
@[simp] theorem holds_single (a : α) : (single a).holds v = v a := by
  simp [holds, runs, runsFrom, single]

/-- An `or` begins anew: what stands before it and what stands after it hold or do not by
    themselves. -/
theorem holdsFrom_append_or (b : Bool) (r r' : List (Combiner × α)) (a : α) :
    holdsFrom v b (r ++ (.or, a) :: r') = (holdsFrom v b r || holdsFrom v (v a) r') := by
  induction r generalizing b with
  | nil => rfl
  | cons p r ih =>
    obtain ⟨c, d⟩ := p
    cases c with
    | and => exact ih (b && v d)
    | or =>
      -- the run that ends here stands on the left of both sides
      show (b || holdsFrom v (v d) (r ++ (.or, a) :: r')) = _
      rw [ih, ← Bool.or_assoc]
      rfl

/-- An `or` between two chains is an `or` of their truth values. -/
theorem holds_append_or (s t : Chain α) :
    (s.append .or t).holds v = (s.holds v || t.holds v) := by
  simp only [holds_eq_holdsFrom, append, holdsFrom_append_or]

/-- Links with `and` between them hold if all do. -/
theorem holdsFrom_of_all_and (b : Bool) {r : List (Combiner × α)} (hr : ∀ p ∈ r, p.1 = .and) :
    holdsFrom v b r = (b && (r.map Prod.snd).all v) := by
  induction r generalizing b with
  | nil => simp [holdsFrom]
  | cons p r ih =>
    obtain ⟨c, a⟩ := p
    obtain rfl : c = .and := hr _ List.mem_cons_self
    have hrest := ih (b && v a) fun q hq => hr q (List.mem_cons_of_mem _ hq)
    rw [holdsFrom, hrest]
    simp [Bool.and_assoc]

/-- A chain without `or` holds if all its links do. -/
theorem holds_of_all_and {s : Chain α} (hs : ∀ p ∈ s.rest, p.1 = .and) :
    s.holds v = s.links.all v := by
  rw [holds_eq_holdsFrom, holdsFrom_of_all_and _ hs]
  simp [links]

/-- From what holds, links that all hold lead to what holds. -/
theorem holdsFrom_true {r : List (Combiner × α)} (hr : ∀ p ∈ r, v p.2 = true) :
    holdsFrom v true r = true := by
  induction r with
  | nil => rfl
  | cons p r ih =>
    obtain ⟨c, a⟩ := p
    cases c with
    | and =>
      rw [holdsFrom, hr _ List.mem_cons_self]
      exact ih fun q hq => hr q (List.mem_cons_of_mem _ hq)
    | or => rfl

/-- A chain holds if all its links do, whatever stands between them. -/
theorem holds_of_links {s : Chain α} (hs : ∀ a ∈ s.links, v a = true) : s.holds v = true := by
  rw [holds_eq_holdsFrom, hs s.first List.mem_cons_self]
  exact holdsFrom_true fun p hp => hs p.2 (mem_links_of_mem_rest hp)

/-- An `and` before links that all hold changes nothing of what held before it. -/
theorem holdsFrom_append_and_left {b : Bool} {r r' : List (Combiner × α)} {a : α}
    (h : holdsFrom v b r = true) (ha : v a = true) (hr' : ∀ p ∈ r', v p.2 = true) :
    holdsFrom v b (r ++ (.and, a) :: r') = true := by
  induction r generalizing b with
  | nil =>
    -- the run that is true goes on in the links that all hold
    obtain rfl : b = true := h
    show holdsFrom v (true && v a) r' = true
    rw [ha]
    exact holdsFrom_true hr'
  | cons p r ih =>
    obtain ⟨c, d⟩ := p
    cases c with
    | and => exact ih h
    | or =>
      simp only [List.cons_append, holdsFrom, Bool.or_eq_true] at h ⊢
      exact h.imp_right ih

/-- A chain that holds still does if `and` joins a chain to its end whose links all hold. -/
theorem holds_append_and_left {s t : Chain α} (hs : s.holds v = true)
    (ht : ∀ a ∈ t.links, v a = true) : (s.append .and t).holds v = true := by
  rw [holds_eq_holdsFrom] at hs ⊢
  exact holdsFrom_append_and_left hs (ht t.first List.mem_cons_self)
    fun p hp => ht p.2 (mem_links_of_mem_rest hp)

/-- An `and` after links that all hold changes nothing of what holds after it. -/
theorem holdsFrom_append_and_right {r r' : List (Combiner × α)} {a : α}
    (hr : ∀ p ∈ r, v p.2 = true) (h : holdsFrom v (v a) r' = true) :
    holdsFrom v true (r ++ (.and, a) :: r') = true := by
  induction r with
  | nil => exact h
  | cons p r ih =>
    obtain ⟨c, d⟩ := p
    have hd : v d = true := hr _ List.mem_cons_self
    cases c with
    | and =>
      -- the run stays true on its way to the chain that holds
      rw [List.cons_append, holdsFrom, hd]
      exact ih fun q hq => hr q (List.mem_cons_of_mem _ hq)
    | or => rfl

/-- A chain that holds still does if `and` joins a chain to its front whose links all hold. -/
theorem holds_append_and_right {s t : Chain α} (hs : ∀ a ∈ s.links, v a = true)
    (ht : t.holds v = true) : (s.append .and t).holds v = true := by
  rw [holds_eq_holdsFrom] at ht ⊢
  show holdsFrom v (v s.first) (s.rest ++ (.and, t.first) :: t.rest) = true
  rw [hs s.first List.mem_cons_self]
  exact holdsFrom_append_and_right
    (fun p hp => hs p.2 (mem_links_of_mem_rest hp)) ht

/-- What holds depends on what its links are worth, and on nothing else. -/
theorem holdsFrom_congr {w : α → Bool} (b : Bool) {r : List (Combiner × α)}
    (hr : ∀ p ∈ r, v p.2 = w p.2) : holdsFrom v b r = holdsFrom w b r := by
  induction r generalizing b with
  | nil => rfl
  | cons p r ih =>
    obtain ⟨c, a⟩ := p
    have ha : v a = w a := hr _ List.mem_cons_self
    have hrest : ∀ q ∈ r, v q.2 = w q.2 := fun q hq => hr q (List.mem_cons_of_mem _ hq)
    cases c with
    | and => simp only [holdsFrom, ha, ih (b && w a) hrest]
    | or => simp only [holdsFrom, ha, ih (w a) hrest]

/-- The truth of a chain depends on its links only. -/
theorem holds_congr {w : α → Bool} {s : Chain α} (hs : ∀ a ∈ s.links, v a = w a) :
    s.holds v = s.holds w := by
  rw [holds_eq_holdsFrom, holds_eq_holdsFrom, hs s.first List.mem_cons_self]
  exact holdsFrom_congr _ fun p hp => hs p.2 (mem_links_of_mem_rest hp)

/-- Links may be replaced by what they are worth. -/
theorem holdsFrom_map {β : Type} (g : β → α) (b : Bool) (r : List (Combiner × β)) :
    holdsFrom v b (r.map fun p => (p.1, g p.2)) = holdsFrom (v ∘ g) b r := by
  induction r generalizing b with
  | nil => rfl
  | cons p r ih =>
    obtain ⟨c, a⟩ := p
    cases c with
    | and => exact ih (b && v (g a))
    | or => exact congrArg (b || ·) (ih (v (g a)))

/-- The chain of what a function makes of the links holds as they do. -/
theorem holds_map {β : Type} (g : β → α) (s : Chain β) :
    (s.map g).holds v = s.holds (v ∘ g) := by
  rw [holds_eq_holdsFrom, holds_eq_holdsFrom]
  exact holdsFrom_map g _ s.rest

end Chain

namespace Filter

/-! ### The truth of a filter -/

/-- Whether a leaf holds of everything. -/
def isIdentity : Filter → Bool
  | field f => f.literal.isNone
  | _ => false

/-- Whether a leaf holds, if the other leaves have the given truth values. -/
def leafHolds (v : Filter → Bool) (f : Filter) : Bool := f.isIdentity || v f

/-- Whether a filter holds as it is nested. -/
def holds (v : Filter → Bool) : Filter → Bool
  | joined left .and right => left.holds v && right.holds v
  | joined left .or right => left.holds v || right.holds v
  | f => leafHolds v f

/-- Whether a filter holds as its leaves stand in order. -/
def flatHolds (v : Filter → Bool) (f : Filter) : Bool := f.inOrder.holds (leafHolds v)

/-- Whether a filter joins two others with `or`. -/
def isOr : Filter → Bool
  | joined _ .or _ => true
  | _ => false

/-- Whether an `or` stands directly below an `and`. -/
def nestsOr : Filter → Bool
  | joined left c right =>
    (c == .and && (left.isOr || right.isOr)) || left.nestsOr || right.nestsOr
  | _ => false

/-- An `or` at the root is read flat as it is nested. -/
theorem flatHolds_joined_or (v : Filter → Bool) (l r : Filter) :
    (joined l .or r).flatHolds v = (l.flatHolds v || r.flatHolds v) :=
  Chain.holds_append_or _ _

/-- Without an `or` below an `and`, only an `or` has one among its leaves. -/
theorem all_and_of_nestsOr_eq_false {f : Filter} (hf : f.nestsOr = false) (ho : f.isOr = false) :
    ∀ p ∈ f.inOrder.rest, p.1 = .and := by
  -- induction on the filter: below an `and` there is no `or`, so the operands are of the same kind
  induction f with
  | joined l c r ihl ihr =>
    cases c with
    | or => simp [isOr] at ho
    | and =>
      simp only [nestsOr, beq_self_eq_true, Bool.true_and, Bool.or_eq_false_iff] at hf
      obtain ⟨⟨⟨hlo, hro⟩, hl⟩, hr⟩ := hf
      -- the links are those of the left operand, the connective itself, and those of the right one
      intro p hp
      rcases List.mem_append.mp hp with hp | hp
      · exact ihl hl hlo p hp
      · rcases List.mem_cons.mp hp with rfl | hp
        · rfl
        · exact ihr hr hro p hp
  | _ => intro p hp; exact absurd hp List.not_mem_nil

/-- **The text means what the filter means** if no `or` stands directly below an `and`. -/
theorem holds_eq_of_nestsOr_eq_false {f : Filter} (hf : f.nestsOr = false) (v : Filter → Bool) :
    f.flatHolds v = f.holds v := by
  induction f with
  | joined l c r ihl ihr =>
    simp only [nestsOr, Bool.or_eq_false_iff] at hf
    obtain ⟨⟨hc, hl⟩, hr⟩ := hf
    cases c with
    | or => rw [flatHolds_joined_or, ihl hl, ihr hr, holds]
    | and =>
      simp only [beq_self_eq_true, Bool.true_and, Bool.or_eq_false_iff] at hc
      -- an `or` on either side would stand directly below the `and`
      have hand := all_and_of_nestsOr_eq_false (f := joined l .and r)
        (by simp [nestsOr, hc, hl, hr]) rfl
      -- all three chains are single runs
      rw [holds, ← ihl hl, ← ihr hr, flatHolds, flatHolds, flatHolds,
        Chain.holds_of_all_and hand, Chain.holds_of_all_and (all_and_of_nestsOr_eq_false hl hc.1),
        Chain.holds_of_all_and (all_and_of_nestsOr_eq_false hr hc.2), inOrder,
        Chain.links_append, List.all_append]
  | _ => exact Chain.holds_single _

/-! ### Where the readings differ -/

/-- Whether a leaf holds depends on its own worth. -/
theorem leafHolds_congr {v w : Filter → Bool} {g : Filter} (h : v g = w g) :
    leafHolds v g = leafHolds w g := by
  rw [leafHolds, leafHolds, h]

/-- Whether a filter holds flat depends on what its leaves are worth. -/
theorem flatHolds_congr {v w : Filter → Bool} {f : Filter}
    (h : ∀ g ∈ f.inOrder.links, v g = w g) : f.flatHolds v = f.flatHolds w :=
  Chain.holds_congr fun g hg => leafHolds_congr (h g hg)

/-- Whether a filter holds as nested depends on what its leaves are worth. -/
theorem holds_congr {v w : Filter → Bool} {f : Filter}
    (h : ∀ g ∈ f.inOrder.links, v g = w g) : f.holds v = f.holds w := by
  induction f with
  | joined l c r ihl ihr =>
    rw [inOrder, Chain.links_append] at h
    have hl := ihl fun g hg => h g (List.mem_append_left _ hg)
    have hr := ihr fun g hg => h g (List.mem_append_right _ hg)
    cases c <;> simp only [holds, hl, hr]
  | field f => exact leafHolds_congr (h _ List.mem_cons_self)
  | distance g => exact leafHolds_congr (h _ List.mem_cons_self)
  | sortKey k => exact leafHolds_congr (h _ List.mem_cons_self)
  | value u => exact leafHolds_congr (h _ List.mem_cons_self)

/-- A filter does not hold if none of its leaves does. -/
theorem holds_of_links_false {v : Filter → Bool} {f : Filter}
    (h : ∀ g ∈ f.inOrder.links, leafHolds v g = false) : f.holds v = false := by
  induction f with
  | joined l c r ihl ihr =>
    rw [inOrder, Chain.links_append] at h
    have hl := ihl fun g hg => h g (List.mem_append_left _ hg)
    have hr := ihr fun g hg => h g (List.mem_append_right _ hg)
    cases c <;> simp only [holds, hl, hr, Bool.and_self, Bool.or_self]
  | field f => exact h _ List.mem_cons_self
  | distance g => exact h _ List.mem_cons_self
  | sortKey k => exact h _ List.mem_cons_self
  | value u => exact h _ List.mem_cons_self

/-- The names of the leaves of a filter, where `key` names filters. -/
def keys {κ : Type} (key : Filter → κ) (f : Filter) : List κ := f.inOrder.links.map key

variable {κ : Type} {key : Filter → κ}

open Classical in
/-- The truth values `v` for the names in a list, and `b` for all others. -/
noncomputable def valuesOn (ks : List κ) (v : κ → Bool) (b : Bool) (k : κ) : Bool :=
  if k ∈ ks then v k else b

/-- Leaves of a filter are worth what they were. -/
theorem valuesOn_keys {f g : Filter} (hg : g ∈ f.inOrder.links) (v : κ → Bool) (b : Bool) :
    (valuesOn (f.keys key) v b ∘ key) g = (v ∘ key) g :=
  if_pos (List.mem_map_of_mem hg)

/-- All other leaves are worth what was chosen for them. -/
theorem valuesOn_of_notMem {g : Filter} {ks : List κ} (hg : key g ∉ ks) (v : κ → Bool)
    (b : Bool) : (valuesOn ks v b ∘ key) g = b :=
  if_neg hg

/-- What other leaves are worth does not change whether a filter holds flat. -/
theorem flatHolds_valuesOn (f : Filter) (v : κ → Bool) (b : Bool) :
    f.flatHolds (valuesOn (f.keys key) v b ∘ key) = f.flatHolds (v ∘ key) :=
  flatHolds_congr fun _ hg => valuesOn_keys hg v b

/-- What other leaves are worth does not change whether a filter holds as nested. -/
theorem holds_valuesOn (f : Filter) (v : κ → Bool) (b : Bool) :
    f.holds (valuesOn (f.keys key) v b ∘ key) = f.holds (v ∘ key) :=
  holds_congr fun _ hg => valuesOn_keys hg v b

/-- A filter does not hold if only names outside of it may be true. -/
theorem holds_valuesOn_false {f : Filter} {ks : List κ}
    (hi : ∀ g ∈ f.inOrder.links, g.isIdentity = false)
    (hd : ∀ g ∈ f.inOrder.links, key g ∉ ks) (v : κ → Bool) :
    f.holds (valuesOn ks v false ∘ key) = false :=
  holds_of_links_false fun g hg => by
    rw [leafHolds, hi g hg, valuesOn_of_notMem (hd g hg), Bool.or_self]

/-- The leaves of a filter hold if only names outside of it may be false. -/
theorem leafHolds_valuesOn_true {f : Filter} {ks : List κ}
    (hd : ∀ g ∈ f.inOrder.links, key g ∉ ks) (v : κ → Bool) :
    ∀ g ∈ f.inOrder.links, leafHolds (valuesOn ks v true ∘ key) g = true :=
  fun g hg => by rw [leafHolds, valuesOn_of_notMem (hd g hg), Bool.or_true]

/-- The text of a filter is true if all its names are. -/
theorem flatHolds_valuesOn_keys (f : Filter) :
    f.flatHolds (valuesOn (f.keys key) (fun _ => true) false ∘ key) = true := by
  rw [flatHolds_valuesOn]
  exact Chain.holds_of_links fun g _ => Bool.or_true _

/-- The keys of a join are those of its sides. -/
theorem keys_joined (l r : Filter) (c : Combiner) :
    (joined l c r).keys key = l.keys key ++ r.keys key := by
  rw [keys, inOrder, Chain.links_append, List.map_append]
  rfl

/-- Whether some truth values of the names make the text true and the filter false. -/
def Differs (key : Filter → κ) (f : Filter) : Prop :=
  ∃ v : κ → Bool, f.flatHolds (v ∘ key) = true ∧ f.holds (v ∘ key) = false

/-- Of an `or` the readings differ if they do on its left: the right is made false. -/
theorem Differs.or_left {l r : Filter} (h : l.Differs key)
    (hi : ∀ g ∈ r.inOrder.links, g.isIdentity = false)
    (hd : ∀ g ∈ r.inOrder.links, key g ∉ l.keys key) : (joined l .or r).Differs key := by
  obtain ⟨v, ht, hv⟩ := h
  refine ⟨valuesOn (l.keys key) v false, ?_, ?_⟩
  · rw [flatHolds_joined_or, flatHolds_valuesOn, ht, Bool.true_or]
  · rw [holds, holds_valuesOn, hv, holds_valuesOn_false hi hd, Bool.or_self]

/-- Of an `or` the readings differ if they do on its right: the left is made false. -/
theorem Differs.or_right {l r : Filter} (h : r.Differs key)
    (hi : ∀ g ∈ l.inOrder.links, g.isIdentity = false)
    (hd : ∀ g ∈ l.inOrder.links, key g ∉ r.keys key) : (joined l .or r).Differs key := by
  obtain ⟨v, ht, hv⟩ := h
  refine ⟨valuesOn (r.keys key) v false, ?_, ?_⟩
  · rw [flatHolds_joined_or, flatHolds_valuesOn r, ht, Bool.or_true]
  · rw [holds, holds_valuesOn r, hv, holds_valuesOn_false hi hd, Bool.or_self]

/-- Of an `and` the readings differ if they do on its left: the right is made true. -/
theorem Differs.and_left {l r : Filter} (h : l.Differs key)
    (hd : ∀ g ∈ r.inOrder.links, key g ∉ l.keys key) : (joined l .and r).Differs key := by
  obtain ⟨v, ht, hv⟩ := h
  refine ⟨valuesOn (l.keys key) v true, ?_, ?_⟩
  · rw [flatHolds, inOrder]
    exact Chain.holds_append_and_left ((flatHolds_valuesOn l v true).trans ht)
      (leafHolds_valuesOn_true hd v)
  · rw [holds, holds_valuesOn, hv, Bool.false_and]

/-- Of an `and` the readings differ if they do on its right: the left is made true. -/
theorem Differs.and_right {l r : Filter} (h : r.Differs key)
    (hd : ∀ g ∈ l.inOrder.links, key g ∉ r.keys key) : (joined l .and r).Differs key := by
  obtain ⟨v, ht, hv⟩ := h
  refine ⟨valuesOn (r.keys key) v true, ?_, ?_⟩
  · rw [flatHolds, inOrder]
    exact Chain.holds_append_and_right (leafHolds_valuesOn_true hd v)
      ((flatHolds_valuesOn r v true).trans ht)
  · rw [holds, holds_valuesOn r, hv, Bool.and_false]

/-- `(x or y) and r` is read as `x or (y and r)`: it is enough that `x` is true. -/
theorem differs_of_or_left {x y r : Filter} (hi : ∀ g ∈ r.inOrder.links, g.isIdentity = false)
    (hd : ∀ g ∈ r.inOrder.links, key g ∉ x.keys key) :
    (joined (joined x .or y) .and r).Differs key := by
  refine ⟨valuesOn (x.keys key) (fun _ => true) false, ?_, ?_⟩
  · rw [flatHolds, inOrder, inOrder, Chain.append_assoc, Chain.holds_append_or]
    show (x.flatHolds _ || _) = true
    rw [flatHolds_valuesOn_keys, Bool.true_or]
  · rw [holds, holds_valuesOn_false hi hd, Bool.and_false]

/-- `l and (x or y)` is read as `(l and x) or y`: it is enough that `y` is true. -/
theorem differs_of_or_right {l x y : Filter} (hi : ∀ g ∈ l.inOrder.links, g.isIdentity = false)
    (hd : ∀ g ∈ l.inOrder.links, key g ∉ y.keys key) :
    (joined l .and (joined x .or y)).Differs key := by
  refine ⟨valuesOn (y.keys key) (fun _ => true) false, ?_, ?_⟩
  · rw [flatHolds, inOrder, inOrder, ← Chain.append_assoc, Chain.holds_append_or]
    show (_ || y.flatHolds _) = true
    rw [flatHolds_valuesOn_keys, Bool.or_true]
  · rw [holds, holds_valuesOn_false hi hd, Bool.false_and]

/-- A filter that is an `or` has two sides. -/
theorem exists_eq_joined_or {f : Filter} (h : f.isOr = true) : ∃ x y, f = joined x .or y := by
  cases f with
  | joined x c y =>
    cases c with
    | and => simp [isOr] at h
    | or => exact ⟨x, y, rfl⟩
  | _ => simp [isOr] at h

/-- **The text can be true where the filter is false** if an `or` stands directly below an `and`, no
    leaf holds of everything and the leaves have distinct names. -/
theorem differs_of_nestsOr {f : Filter} (hf : f.nestsOr = true)
    (hi : ∀ g ∈ f.inOrder.links, g.isIdentity = false) (hn : (f.keys key).Nodup) :
    f.Differs key := by
  induction f with
  | joined l c r ihl ihr =>
    rw [inOrder, Chain.links_append] at hi
    have hil : ∀ g ∈ l.inOrder.links, g.isIdentity = false :=
      fun g hg => hi g (List.mem_append_left _ hg)
    have hir : ∀ g ∈ r.inOrder.links, g.isIdentity = false :=
      fun g hg => hi g (List.mem_append_right _ hg)
    rw [keys_joined, List.nodup_append] at hn
    obtain ⟨hnl, hnr, hdisjoint⟩ := hn
    -- neither side has a name of the other
    have hl : ∀ g ∈ l.inOrder.links, key g ∉ r.keys key :=
      fun g hg hk => hdisjoint _ (List.mem_map_of_mem hg) _ hk rfl
    have hr : ∀ g ∈ r.inOrder.links, key g ∉ l.keys key :=
      fun g hg hk => hdisjoint _ hk _ (List.mem_map_of_mem hg) rfl
    cases c with
    | or =>
      have hf : l.nestsOr = true ∨ r.nestsOr = true := by simpa [nestsOr] using hf
      rcases hf with hf | hf
      · exact (ihl hf hil hnl).or_left hir hr
      · exact (ihr hf hir hnr).or_right hil hl
    | and =>
      have hf : ((l.isOr = true ∨ r.isOr = true) ∨ l.nestsOr = true) ∨ r.nestsOr = true := by
        simpa [nestsOr] using hf
      rcases hf with ((hf | hf) | hf) | hf
      · obtain ⟨x, y, rfl⟩ := exists_eq_joined_or hf
        refine differs_of_or_left hir fun g hg hk => hr g hg ?_
        rw [keys_joined]
        exact List.mem_append_left _ hk
      · obtain ⟨x, y, rfl⟩ := exists_eq_joined_or hf
        refine differs_of_or_right hil fun g hg hk => hl g hg ?_
        rw [keys_joined]
        exact List.mem_append_right _ hk
      · exact (ihl hf hil hnl).and_left hr
      · exact (ihr hf hir hnr).and_right hl
  | _ => simp [nestsOr] at hf

/-! ### The text as it is read -/

/-- The truth value of a text that is read as a filter. -/
def textHolds (v : Term → Bool) (s : String) : Option Bool :=
  (readTerms s).map fun t => t.holds fun t => t == .always || v t

/-- A readable leaf holds of everything exactly if its term is `true`. -/
theorem term_eq_always {f : Filter} (hf : f.readable = true) :
    ∀ g ∈ f.inOrder.links, (g.term == .always) = g.isIdentity := by
  -- induction on the filter; of the leaves only a condition without a literal is always true
  induction f with
  | joined l c r ihl ihr =>
    rw [readable, Bool.and_eq_true] at hf
    intro g hg
    rw [inOrder, Chain.links_append, List.mem_append] at hg
    rcases hg with hg | hg
    · exact ihl hf.1 g hg
    · exact ihr hf.2 g hg
  | field f =>
    intro g hg
    obtain rfl := List.mem_singleton.mp hg
    obtain ⟨v, c, literal⟩ := f
    cases literal <;> rfl
  | distance d =>
    intro g hg
    obtain rfl := List.mem_singleton.mp hg
    rfl
  | sortKey k => simp [readable] at hf
  | value v => simp [readable] at hf

/-- The text of a readable filter holds as its leaves stand in order. -/
theorem textHolds_compile {f : Filter} (hf : f.readable = true) {s : String}
    (hs : f.compile = .ok s) (v : Term → Bool) :
    textHolds v s = some (f.flatHolds (v ∘ term)) := by
  rw [textHolds, readTerms_of_compile hf hs, Option.map_some, terms, Chain.holds_map]
  refine congrArg some (Chain.holds_congr fun g hg => ?_)
  show (g.term == .always || v g.term) = leafHolds (v ∘ term) g
  rw [term_eq_always hf g hg]
  rfl

/-- **When a filter means what its text says.** The text of a filter is made of the texts of its
    leaves in order, and a reader of the text finds the truth value that they have in order. If no
    `or` stands directly below an `and`, this is the truth value of the filter, whatever the leaves
    are worth. If there is such a place, no leaf holds of everything, and the leaves have distinct
    names of some kind — as filters, or by their terms or texts —, then some truth values of these
    names tell the text and the filter apart. -/
theorem precedence (f : Filter) :
    f.compile = (f.inOrder.traverse compile).map Chain.text ∧
    (f.readable = true → ∀ s, f.compile = .ok s → ∀ v : Term → Bool,
      textHolds v s = some (f.flatHolds (v ∘ term))) ∧
    (f.nestsOr = false → ∀ v : Filter → Bool, f.flatHolds v = f.holds v) ∧
    (f.nestsOr = true → (∀ g ∈ f.inOrder.links, g.isIdentity = false) →
      ∀ {κ : Type} (key : Filter → κ), (f.inOrder.links.map key).Nodup →
        ∃ v : κ → Bool, f.flatHolds (v ∘ key) ≠ f.holds (v ∘ key)) := by
  refine ⟨compile_eq_chain f, fun hf s hs v => textHolds_compile hf hs v,
    holds_eq_of_nestsOr_eq_false, ?_⟩
  intro hf hi κ key hn
  obtain ⟨v, ht, hv⟩ := differs_of_nestsOr hf hi hn
  refine ⟨v, ?_⟩
  rw [ht, hv]
  decide

/-- Three comparisons: with the `or` above the `and` the text means what the filter means, and with
    the `or` below the `and` their texts can be given truth values that tell the two apart. -/
theorem precedence_three :
    let compared : String → Filter := fun s => .field ⟨.text s, .eq, some (.bool true)⟩
    let above := joined (joined (compared "a") .and (compared "b")) .or (compared "c")
    let below := joined (compared "a") .and (joined (compared "b") .or (compared "c"))
    (above.nestsOr = false ∧ ∀ v : Filter → Bool, above.flatHolds v = above.holds v) ∧
      (below.nestsOr = true ∧ (below.inOrder.links.map term).Nodup) ∧
        ∃ v : Term → Bool, textHolds v "a eq true and b eq true or c eq true"
          ≠ some (below.holds (v ∘ term)) := by
  intro compared above below
  have hn : (below.inOrder.links.map term).Nodup := by decide
  have hi : ∀ g ∈ below.inOrder.links, g.isIdentity = false := by simp [below, compared, inOrder,
    isIdentity, Chain.single, Chain.append, Chain.links]
  obtain ⟨v, hv⟩ := (precedence below).2.2.2 rfl hi term hn
  have htext := (precedence below).2.1 (by decide) "a eq true and b eq true or c eq true" rfl v
  refine ⟨⟨rfl, (precedence above).2.2.1 rfl⟩, ⟨rfl, hn⟩, v, ?_⟩
  rw [htext]
  exact fun h => hv (Option.some.inj h)

end Filter

end IndexSearch
