import IndexSearch.Proofs.FilterChain
import IndexSearch.Proofs.NearestDouble
import IndexSearch.Proofs.Outcomes

namespace IndexSearch

open Number

/-!
# Why a filter cannot be written

Joining does not look at what it joins, and the numbers of a distance are not looked at before they
are written. So a tree that has been built may have many faults, and writing it fails with the first
of them from left to right. The faults of a tree are those of its leaves: coordinates and distances
without a text of six decimals, and whatever is no filter at all. The comparison of a field with a
literal was looked at when it was made; still it has faults if the field or the literal has no text,
as a whole number that is too long has none.

* `FailsFirst` — failing with the first of some faults, `FailsFirst.bind` — in two steps;
* `fixedFault?` — which values have no text with six decimals, and why;
* `Filter.faults` — the faults of a leaf, `Filter.compile_failsFirst` — writing fails with the first
  fault of the leaves;
* `Filter.onField_eq_ok_iff`, `Filter.onDistance_eq_ok_iff` — which comparisons can be made;
* `Literal.CanBeWritten` — which literals have a text;
* `Filter.Built` — what can be built, `Filter.isNamed_of_built` — what is compared in it is named;
* `Filter.fails_first` — when and how writing a filter fails.
-/

/-! ### Failing with the first fault -/

section FailsFirst

variable {ε α β : Type} {es fs : List ε} {x : Except ε α}

/-- Whether something fails with the first of the given faults, and succeeds if there are none. -/
def FailsFirst (es : List ε) (x : Except ε α) : Prop :=
  match es with
  | [] => ∃ a, x = .ok a
  | e :: _ => x = .error e

/-- A result without faults fails with none. -/
theorem failsFirst_nil (a : α) : FailsFirst ([] : List ε) (.ok a) := ⟨a, rfl⟩

/-- Of two steps the faults of the first one come first. -/
theorem FailsFirst.bind {f : α → Except ε β} (hx : FailsFirst es x)
    (hf : ∀ a, FailsFirst fs (f a)) : FailsFirst (es ++ fs) (x >>= f) := by
  cases es with
  | nil =>
    obtain ⟨a, rfl⟩ := hx
    exact hf a
  | cons e r =>
    rw [show x = .error e from hx]
    rfl

/-- What is made of a result without failing adds no faults. -/
theorem FailsFirst.bind_pure (hx : FailsFirst es x) (f : α → β) :
    FailsFirst es (x >>= fun a => pure (f a)) := by
  have h : FailsFirst (es ++ []) (x >>= fun a => pure (f a)) :=
    hx.bind fun a => failsFirst_nil (f a)
  rwa [List.append_nil] at h

/-- Faults that are given other names come in the same order. -/
theorem FailsFirst.mapError {δ : Type} (hx : FailsFirst es x) (f : ε → δ) :
    FailsFirst (es.map f) (x.mapError f) := by
  cases es with
  | nil =>
    obtain ⟨a, rfl⟩ := hx
    exact failsFirst_nil a
  | cons e r =>
    rw [show x = .error e from hx]
    rfl

/-- There is a result exactly if there are no faults. -/
theorem FailsFirst.exists_ok_iff (h : FailsFirst es x) : (∃ a, x = .ok a) ↔ es = [] := by
  cases es with
  | nil => exact iff_of_true h rfl
  | cons e r =>
    rw [show x = .error e from h]
    exact iff_of_false (by rintro ⟨a, ha⟩; cases ha) (List.cons_ne_nil e r)

/-- The error is the first fault. -/
theorem FailsFirst.eq_error_iff (h : FailsFirst es x) (e : ε) :
    x = .error e ↔ es.head? = some e := by
  cases es with
  | nil =>
    obtain ⟨a, rfl⟩ := h
    exact iff_of_false (fun ha => by cases ha) (fun ha => by cases ha)
  | cons d r =>
    rw [show x = .error d from h, List.head?_cons, Except.error.injEq, Option.some.injEq]

end FailsFirst

/-- A check fails with the first of what it checks for. -/
theorem check_failsFirst (fs : List TextFault) :
    FailsFirst (fs.map .unwritten) (QueryError.check fs) := by
  cases fs with
  | nil => exact failsFirst_nil ()
  | cons f r => rfl

/-- What follows a check succeeds exactly if the check finds nothing and it does. -/
theorem check_bind_eq_ok_iff {α : Type} {fs : List TextFault} {x : Unit → Except QueryError α}
    {a : α} : (QueryError.check fs >>= x) = .ok a ↔ fs = [] ∧ x () = .ok a := by
  cases fs with
  | nil => exact (and_iff_right rfl).symm
  | cons f r => exact iff_of_false nofun (fun h => nomatch h.1)

/-- What is thrown after a check is an error, whatever the check finds. -/
theorem check_throw_ne_ok {α : Type} (fs : List TextFault) (e : QueryError) (a : α) :
    (QueryError.check fs >>= fun _ => throw e) ≠ Except.ok a :=
  fun h => nomatch (check_bind_eq_ok_iff.mp h).2

/-! ### Numbers with six decimals -/

/-- Why a value has no text with six decimals, if it has none. Of the numbers these are the whole
    ones that are too large for a double; dates have a text, and moments of which it can be told
    whether it is summer; things of other kinds have or have not. -/
def fixedFault? : Value → Option FixedFault
  | .text _ => some .text
  | .int n => if Binary64.overflowBound ≤ n.natAbs then some .tooLarge else none
  | .bool _ | .real _ | .decimal _ | .date _ => none
  | .dateTime t => (t.region.bind Time.Region.summerSilence).map .raised
  | .object o =>
    match o.fixed with
    | .ok _ => none
    | .error e => some (.raised e)
  | v => some (.kind v.typeName)

/-- The faults of a coordinate or a distance, of which there is at most one. -/
def numberFaults (v : Value) : List QueryError := (fixedFault? v).toList.map .notFixed

/-- A whole number has a text exactly if its double is finite. -/
theorem fixed_int_failsFirst (n : Int) :
    FailsFirst (fixedFault? (.int n)).toList (fixed (.int n)) := by
  -- whether the number is past every float is decided before it is written
  have hlimit := Binary64.exists_ofInt_eq_infinite_iff n
  rw [fixedFault?, fixed]
  generalize Binary64.ofInt n = x at hlimit ⊢
  cases x with
  | infinite s =>
    rw [if_pos (hlimit.mp ⟨s, rfl⟩)]
    rfl
  | nan =>
    rw [if_neg fun hn => (hlimit.mpr hn).elim fun _ hs => by cases hs]
    exact failsFirst_nil _
  | finite negative m e h =>
    rw [if_neg fun hn => (hlimit.mpr hn).elim fun _ hs => by cases hs]
    exact failsFirst_nil _

/-- Writing a value with six decimals fails with its fault, if it has one. -/
theorem fixed_failsFirst (v : Value) : FailsFirst (fixedFault? v).toList (fixed v) := by
  -- only whole numbers, moments of a region and foreign objects can refuse
  cases v with
  | int n => exact fixed_int_failsFirst n
  | bool _ | real _ | decimal _ | date _ => exact failsFirst_nil _
  | dateTime t =>
    rw [fixedFault?, fixed, momentText]
    cases t.region.bind Time.Region.summerSilence with
    | none => exact failsFirst_nil _
    | some e => rfl
  | object o =>
    rw [fixedFault?, fixed]
    cases o.fixed with
    | ok s => exact failsFirst_nil _
    | error e => rfl
  | null | text _ | bytes _ | list _ | tuple _ | set _ | mapping _ => rfl

/-- In a filter a number fails with its fault, in the wording for filters. -/
theorem fixedIn_failsFirst (v : Value) : FailsFirst (numberFaults v) (fixedIn v) :=
  (fixed_failsFirst v).mapError QueryError.notFixed

/-- The comparison of a distance, with a field that has a text, fails with the first of its
    coordinates and its distance that has none. -/
theorem DistanceFilter.compile_failsFirst (g : DistanceFilter) :
    FailsFirst (numberFaults g.longitude ++ numberFaults g.latitude ++ numberFaults g.distance)
      g.compile := by
  have hcall : FailsFirst (numberFaults g.longitude ++ numberFaults g.latitude)
      (distanceCall g.field g.longitude g.latitude) :=
    (fixedIn_failsFirst g.longitude).bind fun x =>
      (fixedIn_failsFirst g.latitude).bind_pure fun y =>
        "geo.distance(" ++ g.field.plain ++ ", geography'POINT(" ++ x ++ " " ++ y ++ ")')"
  exact hcall.bind fun call => (fixedIn_failsFirst g.distance).bind_pure fun d =>
    call ++ " " ++ g.comparison.word ++ " " ++ d

/-! ### Literals -/

namespace Literal

/-- Whether a literal has a text: a whole number must not be too long, and a moment must not be of a
    region that does not tell its offset. -/
def CanBeWritten : Literal → Prop
  | int n => isShort n = true
  | dateTime t => t.region = none ∨ t.offset ≠ none
  | text _ | bool _ | real _ => True

/-- A whole number has a fault exactly if it is too long. -/
theorem ofInt_eq_nil_iff (n : Int) : TextFault.ofInt n = [] ↔ isShort n = true := by
  rw [TextFault.ofInt]
  cases isShort n <;> simp

/-- A moment has a fault exactly if its region does not tell its offset. -/
theorem moment_faults_eq_nil_iff (t : Time.DateTime) :
    t.faults = [] ↔ t.region = none ∨ t.offset ≠ none := by
  unfold Time.DateTime.faults
  cases t.offset <;> cases t.region <;> simp

/-- The literals that have no faults are those that can be written. -/
theorem faults_eq_nil_iff (l : Literal) : l.faults = [] ↔ l.CanBeWritten := by
  cases l with
  | int n => exact ofInt_eq_nil_iff n
  | dateTime t => exact moment_faults_eq_nil_iff t
  | text _ | bool _ | real _ => exact iff_of_true rfl trivial

end Literal

namespace Filter

/-! ### The faults of a filter -/

/-- The leaves of a filter from left to right. -/
def leaves (f : Filter) : List Filter := f.inOrder.links

/-- The leaves of a join are those of its left side and then those of its right side. -/
theorem leaves_joined (l r : Filter) (c : Combiner) :
    (joined l c r).leaves = l.leaves ++ r.leaves := by
  rw [leaves, inOrder, Chain.links_append]
  rfl

/-- The faults of a leaf in the order in which it is written. -/
def faults : Filter → List QueryError
  | field f => f.faults.map .unwritten
  | distance g => g.field.plainFaults.map .unwritten
    ++ (numberFaults g.longitude ++ numberFaults g.latitude ++ numberFaults g.distance)
  | joined .. => []
  | sortKey key => key.shownFaults.map .unwritten ++ [.notFilter key.shown]
  | value v => v.shownFaults.map .unwritten ++ [.notFilter v.shown]

/-- **Writing a filter fails with the first fault of its leaves.** -/
theorem compile_failsFirst (f : Filter) : FailsFirst (f.leaves.flatMap faults) f.compile := by
  -- the faults of a leaf are those of the filter that it is by itself
  have hleaf : ∀ l : Filter, l.leaves = [l] → FailsFirst l.faults l.compile →
      FailsFirst (l.leaves.flatMap faults) l.compile := by
    intro l hl h
    rw [hl, List.flatMap_singleton]
    exact h
  induction f with
  | field f => exact hleaf _ rfl ((check_failsFirst f.faults).bind_pure fun _ => f.compile)
  | distance g =>
    exact hleaf _ rfl ((check_failsFirst g.field.plainFaults).bind fun _ => g.compile_failsFirst)
  | joined l c r ihl ihr =>
    rw [leaves_joined, List.flatMap_append]
    exact ihl.bind fun s => ihr.bind_pure fun t => s ++ " " ++ c.word ++ " " ++ t
  | sortKey key => exact hleaf _ rfl ((check_failsFirst key.shownFaults).bind fun _ => rfl)
  | value v => exact hleaf _ rfl ((check_failsFirst v.shownFaults).bind fun _ => rfl)

/-- Whether a leaf has no faults: it is a comparison of which the field and the literal have a text,
    or that of a distance of which the field and all three numbers have one. -/
def IsWritable : Filter → Prop
  | field f => ∀ l ∈ f.literal, f.field.plainFaults = [] ∧ l.CanBeWritten
  | distance g => g.field.plainFaults = [] ∧ fixedFault? g.longitude = none
    ∧ fixedFault? g.latitude = none ∧ fixedFault? g.distance = none
  | joined .. | sortKey _ | value _ => False

/-- No leaf is a join. -/
theorem ne_joined_of_mem_leaves {f l : Filter} (hl : l ∈ f.leaves) (a : Filter) (c : Combiner)
    (b : Filter) : l ≠ joined a c b := by
  induction f with
  | joined x d y ihx ihy =>
    rw [leaves_joined, List.mem_append] at hl
    exact hl.elim ihx ihy
  | field _ | distance _ | sortKey _ | value _ =>
    rw [List.mem_singleton.mp hl]
    exact Filter.noConfusion

/-- The faults of a comparison are those of its field and then those of its literal. -/
theorem FieldFilter.faults_eq_nil_iff (f : FieldFilter) :
    f.faults = [] ↔ ∀ l ∈ f.literal, f.field.plainFaults = [] ∧ l.CanBeWritten := by
  unfold FieldFilter.faults
  cases f.literal with
  | none => simp
  | some l => simp [Literal.faults_eq_nil_iff]

/-- The leaves that have no faults are those that can be written. -/
theorem faults_eq_nil_iff {f l : Filter} (hl : l ∈ f.leaves) : l.faults = [] ↔ l.IsWritable := by
  cases l with
  | field g =>
    rw [faults, List.map_eq_nil_iff]
    exact FieldFilter.faults_eq_nil_iff g
  | distance g => simp [faults, IsWritable, numberFaults]
  | joined a c b => exact absurd rfl (ne_joined_of_mem_leaves hl a c b)
  | sortKey key => exact iff_of_false (List.append_ne_nil_of_right_ne_nil _ (by simp)) id
  | value v => exact iff_of_false (List.append_ne_nil_of_right_ne_nil _ (by simp)) id

/-- A leaf that is no comparison is no filter, whatever it is; before this can be said, it has to be
    shown. -/
theorem exists_faults_of_mem_leaves {f l : Filter} (hl : l ∈ f.leaves)
    (hfield : ∀ g, l ≠ field g) (hdistance : ∀ g, l ≠ distance g) :
    ∃ e, l.faults = l.shownFaults.map .unwritten ++ [e]
      ∧ e.message = "Not a filter expression: " ++ l.shown := by
  cases l with
  | field g => exact absurd rfl (hfield g)
  | distance g => exact absurd rfl (hdistance g)
  | joined a c b => exact absurd rfl (ne_joined_of_mem_leaves hl a c b)
  | sortKey key => exact ⟨.notFilter key.shown, rfl, rfl⟩
  | value v => exact ⟨.notFilter v.shown, rfl, rfl⟩

/-! ### What can be built -/

/-- A comparison is found exactly by its name. -/
theorem comparisonOf_eq_ok_iff (v : Value) (c : Comparison) :
    comparisonOf v = .ok c ↔ Comparison.ofValue? v = some c := by
  unfold comparisonOf
  cases Comparison.ofValue? v with
  | none => exact iff_of_false (check_throw_ne_ok _ _ _) nofun
  | some d => simp

/-- A literal is found exactly for the values that literals stand for. -/
theorem literalOf_eq_ok_iff (v : Value) (l : Literal) : literalOf v = .ok l ↔ v = l.toValue := by
  constructor
  · intro h
    cases v with
    | text _ | bool _ | int _ | real _ | dateTime _ => cases h; rfl
    | null | bytes _ | date _ | decimal _ | list _ | tuple _ | set _ | mapping _ | object => cases h
  · rintro rfl
    rw [literalOf, Literal.ofValue?_toValue]

/-- A comparison is made exactly if it has a name and the value is null, or has a literal while the
    field is named. -/
theorem onField_eq_ok_iff (name comparison value : Value) (f : Filter) :
    onField name comparison value = .ok f ↔
      ∃ c, Comparison.ofValue? comparison = some c ∧
        (value = .null ∧ f = field ⟨name, c, none⟩ ∨
          ∃ l : Literal, value = l.toValue ∧ name.truthy = true ∧
            f = field ⟨name, c, some l⟩) := by
  rw [onField, bind_eq_ok_iff]
  refine exists_congr fun c => and_congr (comparisonOf_eq_ok_iff comparison c) ?_
  -- null is taken for a condition without a literal, whatever the name
  by_cases hnull : value = .null
  · subst hnull
    have hliteral : ¬∃ l : Literal, Value.null = l.toValue ∧ name.truthy = true ∧
        f = field ⟨name, c, some l⟩ := by
      rintro ⟨l, hl, -⟩
      cases l <;> cases hl
    show Except.ok (field ⟨name, c, none⟩) = Except.ok f ↔ _
    rw [Except.ok.injEq, or_iff_left hliteral, and_iff_right rfl]
    exact eq_comm
  · have hvalue : value.isNull = false := by
      cases value <;> first | rfl | exact absurd rfl hnull
    rw [if_neg (by simp [hvalue]), bind_eq_ok_iff, or_iff_right (fun h => hnull h.1)]
    refine exists_congr fun l => and_congr (literalOf_eq_ok_iff value l) ?_
    cases name.truthy with
    | false => exact iff_of_false (fun h => by cases h) (fun h => by cases h.1)
    | true =>
      show Except.ok (field ⟨name, c, some l⟩) = Except.ok f ↔ _
      rw [Except.ok.injEq, and_iff_right rfl]
      exact eq_comm

/-- The comparison of a distance is made exactly if it has a name and the field is named; the
    numbers are not looked at. -/
theorem onDistance_eq_ok_iff (name longitude latitude comparison distance : Value) (f : Filter) :
    onDistance name longitude latitude comparison distance = .ok f ↔
      ∃ c, Comparison.ofValue? comparison = some c ∧ name.truthy = true ∧
        f = .distance ⟨name, longitude, latitude, c, distance⟩ := by
  rw [onDistance, bind_eq_ok_iff]
  refine exists_congr fun c => and_congr (comparisonOf_eq_ok_iff comparison c) ?_
  cases name.truthy with
  | false => exact iff_of_false (fun h => by cases h) (fun h => by cases h.1)
  | true =>
    show Except.ok (Filter.distance ⟨name, longitude, latitude, c, distance⟩) = Except.ok f ↔ _
    rw [Except.ok.injEq, and_iff_right rfl]
    exact eq_comm

/-- What the constructors and the combiners of filters make, out of any values and sort keys. -/
inductive Built : Filter → Prop where
  /-- Any value may stand in the place of a filter. -/
  | value (v : Value) : Built (value v)
  /-- Any sort key may stand in the place of a filter. -/
  | sortKey (key : SortKey) : Built (sortKey key)
  /-- The comparison of a field. -/
  | onField {name comparison value : Value} {f : Filter}
      (h : onField name comparison value = .ok f) : Built f
  /-- The comparison of a distance. -/
  | onDistance {name longitude latitude comparison distance : Value} {f : Filter}
      (h : onDistance name longitude latitude comparison distance = .ok f) : Built f
  /-- The comparison of the distance from a point. -/
  | near {name point comparison distance : Value} {f : Filter}
      (h : near name point comparison distance = .ok f) : Built f
  /-- Two filters with a combiner that is given as a value. -/
  | join {l r : Filter} {combiner : Value} {f : Filter} (hl : Built l) (hr : Built r)
      (h : join l combiner r = .ok f) : Built f
  /-- Two filters that hold both. -/
  | and {l r : Filter} (hl : Built l) (hr : Built r) : Built (and l r)
  /-- Two filters of which one holds. -/
  | or {l r : Filter} (hl : Built l) (hr : Built r) : Built (or l r)
  /-- Filters that hold all. -/
  | all {fs : List Filter} (hfs : ∀ f ∈ fs, Built f) : Built (all fs)
  /-- A combiner as an operator. -/
  | operate {c : Combiner} {l r f : Filter} (hl : Built l) (hr : Built r)
      (h : operate c l r = .ok f) : Built f

/-- Whether what a filter compares is named: the field of a distance, and the field of a literal. -/
def IsNamed (f : Filter) : Prop :=
  ∀ l ∈ f.leaves,
    match l with
    | field g => g.literal = none ∨ g.field.truthy = true
    | distance g => g.field.truthy = true
    | joined .. | sortKey _ | value _ => True

/-- What is compared in a join is named if it is on both sides. -/
theorem isNamed_joined (l r : Filter) (c : Combiner) :
    (joined l c r).IsNamed ↔ l.IsNamed ∧ r.IsNamed := by
  rw [IsNamed, leaves_joined, List.forall_mem_append]
  rfl

/-- A comparison that is made names its field, unless it holds of everything. -/
theorem isNamed_of_onField {name comparison value : Value} {f : Filter}
    (h : Filter.onField name comparison value = .ok f) : f.IsNamed := by
  obtain ⟨c, -, ⟨-, rfl⟩ | ⟨l, -, htruthy, rfl⟩⟩ := (onField_eq_ok_iff _ _ _ _).mp h
  · exact List.forall_mem_singleton.mpr (.inl rfl)
  · exact List.forall_mem_singleton.mpr (.inr htruthy)

/-- A comparison of a distance that is made names its field. -/
theorem isNamed_of_onDistance {name longitude latitude comparison distance : Value} {f : Filter}
    (h : Filter.onDistance name longitude latitude comparison distance = .ok f) : f.IsNamed := by
  obtain ⟨c, -, htruthy, rfl⟩ := (onDistance_eq_ok_iff _ _ _ _ _ _).mp h
  exact List.forall_mem_singleton.mpr htruthy

/-- What is compared in a conjunction is named if it is in each part. -/
theorem isNamed_all {fs : List Filter} (hfs : ∀ f ∈ fs, f.IsNamed) : (Filter.all fs).IsNamed := by
  have hfold : ∀ a : Filter, a.IsNamed → (fs.foldl Filter.and a).IsNamed := by
    induction fs with
    | nil => exact fun a ha => ha
    | cons f r ih =>
      obtain ⟨hf, hr⟩ := List.forall_mem_cons.mp hfs
      exact fun a ha => ih hr (Filter.and a f) ((isNamed_joined a f .and).mpr ⟨ha, hf⟩)
  exact hfold identity (List.forall_mem_singleton.mpr (.inl rfl))

/-- An operator joins its operands or makes a plain value of them. -/
theorem operate_cases {c : Combiner} {l r f : Filter} (h : Filter.operate c l r = .ok f) :
    f = joined l c r ∨ ∃ u, f = .value u := by
  unfold Filter.operate at h
  split at h
  · split at h
    · exact .inr ⟨_, (Except.ok.inj h).symm⟩
    · cases h
  · cases h
  · cases h
  · exact .inl (Except.ok.inj h).symm

/-- **What is compared in a filter is named.** The field of a literal and that of a distance count
    as present in whatever has been built. -/
theorem isNamed_of_built {f : Filter} (hf : f.Built) : f.IsNamed := by
  -- induction on how the filter was built; the leaves of a joined one are those of its operands
  induction hf with
  | value v => exact List.forall_mem_singleton.mpr trivial
  | sortKey key => exact List.forall_mem_singleton.mpr trivial
  | onField h => exact isNamed_of_onField h
  | onDistance h => exact isNamed_of_onDistance h
  | near h =>
    obtain ⟨p, -, h⟩ := bind_eq_ok_iff.mp h
    exact isNamed_of_onDistance h
  | @join l r combiner f hl hr h ihl ihr =>
    rw [Filter.join] at h
    cases hc : Combiner.ofValue? combiner with
    | none =>
      rw [hc] at h
      exact absurd h (check_throw_ne_ok _ _ _)
    | some c =>
      rw [hc] at h
      cases h
      exact (isNamed_joined l r c).mpr ⟨ihl, ihr⟩
  | @and l r hl hr ihl ihr => exact (isNamed_joined l r .and).mpr ⟨ihl, ihr⟩
  | @or l r hl hr ihl ihr => exact (isNamed_joined l r .or).mpr ⟨ihl, ihr⟩
  | all hfs ih => exact isNamed_all ih
  | @operate c l r f hl hr h ihl ihr =>
    -- an operator that refuses its operand leaves a value that is no filter
    obtain rfl | ⟨u, rfl⟩ := operate_cases h
    · exact (isNamed_joined l r c).mpr ⟨ihl, ihr⟩
    · exact List.forall_mem_singleton.mpr trivial

/-! ### When and how writing fails -/

/-- The comparison of a field is written if it has no faults. -/
theorem compile_field_eq_ok_iff {f : FieldFilter} {s : String} :
    (field f).compile = .ok s ↔ f.faults = [] ∧ f.compile = s := by
  rw [compile, check_bind_eq_ok_iff]
  exact and_congr_right fun _ => ⟨Except.ok.inj, congrArg Except.ok⟩

/-- The comparison of a distance is written if its field has a text and its numbers have. -/
theorem compile_distance_eq_ok_iff {g : DistanceFilter} {s : String} :
    (distance g).compile = .ok s ↔ g.field.plainFaults = [] ∧ g.compile = .ok s := by
  rw [compile, check_bind_eq_ok_iff]

/-- A filter out of two others is written as these are, with the combiner between them. -/
theorem compile_joined_eq_ok_iff {l r : Filter} {c : Combiner} {s : String} :
    (joined l c r).compile = .ok s ↔ ∃ a b, l.compile = .ok a ∧ r.compile = .ok b
      ∧ s = a ++ " " ++ c.word ++ " " ++ b := by
  simp only [compile, bind_eq_ok_iff]
  constructor
  · rintro ⟨a, ha, b, hb, hs⟩
    exact ⟨a, b, ha, hb, (Except.ok.inj hs).symm⟩
  · rintro ⟨a, b, ha, hb, rfl⟩
    exact ⟨a, ha, b, hb, rfl⟩

/-- A filter has a text exactly if all its leaves have one. -/
theorem exists_compile_eq_ok_iff (f : Filter) :
    (∃ s, f.compile = .ok s) ↔ ∀ l ∈ f.leaves, l.IsWritable := by
  rw [f.compile_failsFirst.exists_ok_iff, List.flatMap_eq_nil_iff]
  exact forall₂_congr fun l hl => faults_eq_nil_iff hl

/-- Writing a filter fails with the first fault of the first leaf that has any. -/
theorem compile_eq_error_iff (f : Filter) (e : QueryError) :
    f.compile = .error e ↔ ∃ before l after, f.leaves = before ++ l :: after ∧
      (∀ b ∈ before, b.IsWritable) ∧ l.faults.head? = some e := by
  rw [f.compile_failsFirst.eq_error_iff, List.head?_flatMap, List.findSome?_eq_some_iff]
  refine exists_congr fun before => exists_congr fun l => exists_congr fun after => ?_
  refine ⟨fun ⟨hleaves, hl, hbefore⟩ => ⟨hleaves, fun b hb => ?_, hl⟩,
    fun ⟨hleaves, hbefore, hl⟩ => ⟨hleaves, hl, fun b hb => ?_⟩⟩
  · exact (faults_eq_nil_iff (hleaves ▸ List.mem_append_left _ hb)).mp
      (List.head?_eq_none_iff.mp (hbefore b hb))
  · exact List.head?_eq_none_iff.mpr
      ((faults_eq_nil_iff (hleaves ▸ List.mem_append_left _ hb)).mpr (hbefore b hb))

/-- The comparison of a field with a literal has a text exactly if both have. -/
theorem exists_compile_field_iff (name : Value) (c : Comparison) (l : Literal) :
    (∃ s, (field ⟨name, c, some l⟩).compile = .ok s) ↔ name.plainFaults = [] ∧ l.CanBeWritten := by
  rw [exists_compile_eq_ok_iff]
  refine List.forall_mem_singleton.trans ?_
  show (∀ k ∈ some l, name.plainFaults = [] ∧ k.CanBeWritten) ↔ _
  simp

/-- **When and how writing a filter fails.** Whatever has been built has a text exactly if each of
    its leaves is a comparison of which the field and the literal have a text, or one of a distance
    of which the field and the three numbers have one; otherwise it fails with the first fault of its
    first other leaf, and the message for a leaf that is no filter says so if the leaf can be shown.
    A comparison is made only of null, or of a literal and a named field. With null it has a text,
    and with a literal unless its field has none, the literal is a whole number that is too long, or
    it is a moment of a region that does not tell its offset. -/
theorem fails_first {f : Filter} (hf : f.Built) :
    ((∃ s, f.compile = .ok s) ↔ ∀ l ∈ f.leaves, l.IsWritable) ∧
    (∀ e, f.compile = .error e ↔ ∃ before l after, f.leaves = before ++ l :: after ∧
      (∀ b ∈ before, b.IsWritable) ∧ l.faults.head? = some e) ∧
    (∀ l ∈ f.leaves, (∀ g, l ≠ field g) → (∀ g, l ≠ distance g) →
      ∃ e, l.faults = l.shownFaults.map .unwritten ++ [e]
        ∧ e.message = "Not a filter expression: " ++ l.shown) ∧
    f.IsNamed ∧
    ∀ name comparison value g, Filter.onField name comparison value = .ok g →
      (value = .null ∧ g.compile = .ok "true") ∨
        (name.truthy = true ∧ ∃ l : Literal, value = l.toValue ∧
          ((∃ s, g.compile = .ok s) ↔ name.plainFaults = [] ∧ l.CanBeWritten)) := by
  refine ⟨exists_compile_eq_ok_iff f, compile_eq_error_iff f,
    fun l hl => exists_faults_of_mem_leaves hl, isNamed_of_built hf, ?_⟩
  intro name comparison value g hg
  obtain ⟨c, -, ⟨hnull, rfl⟩ | ⟨l, hl, htruthy, rfl⟩⟩ := (onField_eq_ok_iff _ _ _ _).mp hg
  · exact .inl ⟨hnull, rfl⟩
  · exact .inr ⟨htruthy, l, hl, exists_compile_field_iff name c l⟩

/-- Of a join with two faulty distances and a number for a filter, the latitude of the first
    distance is found first. -/
theorem fails_first_latitude :
    let near := fun latitude distance : Value =>
      Filter.distance ⟨.text "Geo", .real (.zero true), latitude, .lt, distance⟩
    let f := joined (joined identity .and (near .null (.text "far")))
      .or (joined (.value (.int 7)) .and (near (.text "north") (.int 3)))
    f.Built ∧ f.compile = .error (.notFixed (.kind "NoneType")) := by
  intro near f
  have hnear : ∀ latitude distance : Value, (near latitude distance).Built :=
    fun latitude distance =>
      @Built.onDistance (.text "Geo") (.real (.zero true)) latitude (.text "lt") distance _ rfl
  have hidentity : identity.Built := @Built.onField .null (.text "eq") .null _ rfl
  have hf : f.Built :=
    .or (.and hidentity (hnear _ _)) (.and (.value _) (hnear _ _))
  -- the identity is written, and the latitude of the leaf after it is not
  refine ⟨hf, ((fails_first hf).2.1 _).mpr ⟨[identity], near .null (.text "far"), _, rfl, ?_, rfl⟩⟩
  exact List.forall_mem_singleton.mpr (fun _ h => by cases h)

/-- The comparison of a named field with a whole number that is too long has no text. -/
theorem compile_field_of_long (name : String) (c : Comparison) {n : Int}
    (hn : isShort n = false) :
    (field ⟨.text name, c, some (.int n)⟩).compile = .error (.unwritten .tooLong) := by
  have hfaults : (FieldFilter.mk (.text name) c (some (.int n))).faults = [.tooLong] := by
    simp [FieldFilter.faults, Value.plainFaults, Value.shownFaults, Literal.faults,
      TextFault.ofInt, hn]
  rw [compile, hfaults]
  rfl

/-- A whole number that is too long, in the place of a filter, has no text either. -/
theorem compile_value_of_long {n : Int} (hn : isShort n = false) :
    (value (.int n)).compile = .error (.unwritten .tooLong) := by
  have hfaults : (Value.int n).shownFaults = [.tooLong] := by
    simp [Value.shownFaults, TextFault.ofInt, hn]
  rw [compile, hfaults]
  rfl

/-- A comparison with a whole number of 4301 digits can be made and has no text; in the place of a
    filter such a number has none either, so it is not even said that it is no filter. -/
theorem fails_first_of_long :
    let age := field ⟨.text "Age", .eq, some (.int (10 ^ 4300))⟩
    let number := value (.int (2 ^ 14285 - 1))
    (Filter.onField (.text "Age") (.text "eq") (.int (10 ^ 4300)) = .ok age ∧ age.Built
      ∧ age.compile = .error (.unwritten .tooLong))
    ∧ number.Built ∧ number.compile = .error (.unwritten .tooLong)
    ∧ (QueryError.unwritten .tooLong).message
      = "Exceeds the limit (4300 digits) for integer string conversion"
        ++ "; use sys.set_int_max_str_digits() to increase the limit" := by
  intro age number
  have hmade : Filter.onField (.text "Age") (.text "eq") (.int (10 ^ 4300)) = .ok age := rfl
  exact ⟨⟨hmade, .onField hmade, compile_field_of_long "Age" .eq isShort_ten_pow⟩, .value _,
    compile_value_of_long (by decide +kernel), by decide +kernel⟩

end Filter

end IndexSearch
