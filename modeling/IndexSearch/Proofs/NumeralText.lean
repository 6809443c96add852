import IndexSearch.Proofs.NearestDouble
import Mathlib.Data.List.DropRight

namespace IndexSearch.Number

/-!
# The parts of a number's text

The text of a numeral is one of five layouts of its digits, and each of them is made of the same
parts: digits before a point, digits after it, and an exponent that may be absent. A `Layout` holds
the parts. A reader of numbers has to know the grammar of layouts only, and the numeral that a
layout denotes has the same nearest double as the one whose text it is.

* `Layout` — digits before and after a point, and an exponent;
* `Numeral.layout` — the layout of the text of a numeral;
* `Numeral.toList_text` — the text is the one of the layout;
* `Numeral.toBinary64_layout` — the layout stands for the double that the numeral stands for.
-/

/-! ### Digits before a point -/

/-- Digits that may stand before a point: a single zero, or digits that begin with none. -/
def IsWhole (ds : List Char) : Prop :=
  (∀ c ∈ ds, c.isDigit = true) ∧ (ds = ['0'] ∨ ∃ d r, ds = d :: r ∧ d ≠ '0')

/-- A zero is a whole number. -/
theorem isWhole_zero : IsWhole ['0'] := ⟨List.all_eq_true.mp (by decide), .inl rfl⟩

/-- The digits of a number are those of a whole number: there is no zero in front of others. -/
theorem isWhole_digits (n : Nat) : IsWhole (digits n) := by
  refine ⟨fun c hc => isDigit_of_mem_digits hc, ?_⟩
  by_cases hn : n = 0
  · left; rw [hn]; rfl
  · right; exact exists_digits_eq_cons hn

/-- Digits before a point begin with a digit. -/
theorem IsWhole.exists_cons {ds : List Char} (h : IsWhole ds) :
    ∃ d r, ds = d :: r ∧ d.isDigit = true := by
  obtain ⟨hdigits, rfl | ⟨d, r, rfl, -⟩⟩ := h
  · exact ⟨'0', [], rfl, by decide⟩
  · exact ⟨d, r, rfl, hdigits d List.mem_cons_self⟩

/-- A whole number has digits. -/
theorem IsWhole.isEmpty_eq_false {ds : List Char} (h : IsWhole ds) : ds.isEmpty = false := by
  obtain ⟨d, r, rfl, -⟩ := h.exists_cons
  rfl

/-! ### Significant digits -/

namespace Numeral

/-- The digits of a numeral are its significant ones and zeros after them. -/
theorem exists_digits_eq (n : Numeral) :
    ∃ k, digits n.coefficient = n.significant ++ List.replicate k '0' := by
  have hzeros : ∀ c ∈ (digits n.coefficient).rtakeWhile (· = '0'), c = '0' := by
    intro c hc
    have hzero := List.mem_rtakeWhile_imp hc
    exact of_decide_eq_true hzero
  refine ⟨((digits n.coefficient).rtakeWhile (· = '0')).length, ?_⟩
  rw [← List.eq_replicate_of_mem hzeros]
  exact (List.rdropWhile_append_rtakeWhile (p := (· = '0'))).symm

/-- Significant digits are digits. -/
theorem isDigit_of_mem_significant {n : Numeral} {c : Char} (h : c ∈ n.significant) :
    c.isDigit = true := by
  obtain ⟨k, hk⟩ := exists_digits_eq n
  exact isDigit_of_mem_digits (hk ▸ List.mem_append_left _ h)

/-- The first significant digit is none of the zeros. -/
theorem significant_head_ne_zero {n : Numeral} {d : Char} {r : List Char}
    (h : n.significant = d :: r) : d ≠ '0' := by
  obtain ⟨k, hk⟩ := exists_digits_eq n
  rw [h, List.cons_append] at hk
  have hne : n.coefficient ≠ 0 := by
    intro hzero
    -- the digit of zero is dropped as a zero at the end
    have hnone : n.significant = [] := by rw [significant, hzero]; rfl
    rw [hnone] at h
    exact List.cons_ne_nil _ _ h.symm
  obtain ⟨d', r', hd, hd'⟩ := exists_digits_eq_cons hne
  rw [hd, List.cons.injEq] at hk
  exact hk.1 ▸ hd'

/-- The significant digits and the place of the point determine the double. -/
theorem toBinary64_significant (n : Numeral) :
    n.toBinary64 = (Numeral.mk n.negative (ofDigits n.significant)
      (digitCount n.coefficient + n.exponent - n.significant.length)).toBinary64 := by
  -- trailing zeros of the digits move into the exponent
  obtain ⟨k, hk⟩ := exists_digits_eq n
  have hcoefficient : n.coefficient = ofDigits n.significant * 10 ^ k := by
    rw [← ofDigits_append_zeros, ← hk, ofDigits_digits]
  have hcount : digitCount n.coefficient = n.significant.length + k := by
    rw [digitCount, hk, List.length_append, List.length_replicate]
  have hexponent : n.exponent + k
      = digitCount n.coefficient + n.exponent - n.significant.length := by
    omega
  calc n.toBinary64
      = (Numeral.mk n.negative (ofDigits n.significant * 10 ^ k) n.exponent).toBinary64 := by
        rw [← hcoefficient]
    _ = _ := by rw [toBinary64_shift, hexponent]

end Numeral

/-! ### Layouts -/

/-- The parts of the text of a number. -/
structure Layout where
  /-- The digits before the point. -/
  whole : List Char
  /-- The digits after the point, which is left out if there are none. -/
  fraction : List Char
  /-- The exponent, if there is one. -/
  exponent : Option Int

namespace Layout

/-- The point with the digits after it. -/
def fractionChars (l : Layout) : List Char :=
  if l.fraction.isEmpty then [] else '.' :: l.fraction

/-- The exponent with its letter. -/
def exponentChars (l : Layout) : List Char :=
  match l.exponent with
  | none => []
  | some e => 'e' :: (exponentText e).toList

/-- The text. -/
def chars (l : Layout) : List Char := l.whole ++ l.fractionChars ++ l.exponentChars

/-- The numeral that the parts denote, with a sign. -/
def numeral (negative : Bool) (l : Layout) : Numeral :=
  ⟨negative, ofDigits (l.whole ++ l.fraction), l.exponent.getD 0 - l.fraction.length⟩

/-- Whether the parts are in order: before the point no zero is superfluous, and there is a point or
    an exponent. -/
structure WellFormed (l : Layout) : Prop where
  /-- What is before the point may be there. -/
  whole : IsWhole l.whole
  /-- What is after the point are digits. -/
  fraction : ∀ c ∈ l.fraction, c.isDigit = true
  /-- The text is not that of a whole number. -/
  marked : l.fraction = [] → l.exponent.isSome = true

end Layout

namespace Numeral

/-- The layout of the text of a numeral. -/
def layout (n : Numeral) : Layout :=
  let ds := n.significant
  let point : Int := digitCount n.coefficient + n.exponent
  if ds.isEmpty then ⟨['0'], ['0'], none⟩
  else if point ≤ -4 || 16 < point then ⟨ds.take 1, ds.drop 1, some (point - 1)⟩
  else if point ≤ 0 then ⟨['0'], List.replicate (-point).toNat '0' ++ ds, none⟩
  else if ds.length ≤ point.toNat then
    ⟨ds ++ List.replicate (point.toNat - ds.length) '0', ['0'], none⟩
  else ⟨ds.take point.toNat, ds.drop point.toNat, none⟩

/-- The text of a numeral is that of its layout. -/
theorem toList_text (n : Numeral) : n.text.toList = n.layout.chars := by
  simp only [text, layout]
  split
  · rfl
  · rename_i hne
    -- the layouts differ in where the point stands: after the first digit, before all digits,
    -- behind all of them, or among them
    split
    · -- scientific: one digit, and a point only if others follow
      cases hds : n.significant with
      | nil => exact absurd (List.isEmpty_iff.mpr hds) hne
      | cons d r =>
        cases r with
        | nil => simp [Layout.chars, Layout.fractionChars, Layout.exponentChars]
        | cons d' r => simp [Layout.chars, Layout.fractionChars, Layout.exponentChars]
    · split
      · have hsome : n.significant ≠ [] := fun hnil => hne (List.isEmpty_iff.mpr hnil)
        simp [Layout.chars, Layout.fractionChars, Layout.exponentChars, hsome]
      · split
        · simp [Layout.chars, Layout.fractionChars, Layout.exponentChars]
        · rename_i hlong
          have hrest : n.significant.drop
              (digitCount n.coefficient + n.exponent : Int).toNat ≠ [] := by
            rw [Ne, List.drop_eq_nil_iff]
            exact hlong
          simp [Layout.chars, Layout.fractionChars, Layout.exponentChars, hrest]

/-- Numerals are laid out well. -/
theorem layout_wellFormed (n : Numeral) : n.layout.WellFormed := by
  have hdigits : ∀ c ∈ n.significant, c.isDigit = true := fun _ => isDigit_of_mem_significant
  have hzeros : ∀ k, ∀ c ∈ List.replicate k '0', c.isDigit = true := by
    intro k c hc
    rw [List.eq_of_mem_replicate hc]
    decide
  cases hds : n.significant with
  | nil =>
    have hlayout : n.layout = ⟨['0'], ['0'], none⟩ := by simp [layout, hds]
    rw [hlayout]
    exact ⟨isWhole_zero, List.all_eq_true.mp (by decide), by simp⟩
  | cons d r =>
    rw [hds] at hdigits
    -- whatever begins with the first significant digit may stand before a point
    have hwhole : ∀ ds : List Char, ds.head? = some d → (∀ c ∈ ds, c.isDigit = true) →
        IsWhole ds := by
      intro ds hhead hall
      obtain ⟨t, rfl⟩ := List.head?_eq_some_iff.mp hhead
      exact ⟨hall, .inr ⟨d, t, rfl, significant_head_ne_zero hds⟩⟩
    simp only [layout, hds]
    rw [if_neg (by simp)]
    split
    · -- one digit and an exponent
      refine ⟨hwhole _ rfl fun c hc => hdigits c (List.mem_of_mem_take hc), ?_, by simp⟩
      exact fun c hc => hdigits c (List.mem_of_mem_drop hc)
    · split
      · -- a zero before the point, and zeros before the digits
        refine ⟨isWhole_zero, ?_, by simp⟩
        intro c hc
        rcases List.mem_append.mp hc with hc | hc
        · exact hzeros _ c hc
        · exact hdigits c hc
      · split
        · -- the digits, zeros up to the point, and one after it
          refine ⟨hwhole _ rfl ?_, hzeros 1, by simp⟩
          intro c hc
          rcases List.mem_append.mp (show c ∈ (d :: r) ++ _ from hc) with hc | hc
          · exact hdigits c hc
          · exact hzeros _ c hc
        · -- at least one digit on either side of the point
          rename_i hpos hlong
          refine ⟨hwhole _ ?_ fun c hc => hdigits c (List.mem_of_mem_take hc),
            fun c hc => hdigits c (List.mem_of_mem_drop hc), ?_⟩
          · obtain ⟨k, hk⟩ : ∃ k, (digitCount n.coefficient + n.exponent : Int).toNat = k + 1 :=
              Nat.exists_eq_succ_of_ne_zero (by omega)
            rw [hk]
            rfl
          · intro hnil
            exact absurd (List.drop_eq_nil_iff.mp hnil) hlong

/-- **A text denotes the double of its numeral.** The numeral that the layout denotes has other
    zeros than the one that was laid out, and the same nearest double. -/
theorem toBinary64_layout (n : Numeral) :
    (n.layout.numeral n.negative).toBinary64 = n.toBinary64 := by
  rw [toBinary64_significant n]
  -- it is enough if the digits are the significant ones and zeros that the exponent makes up for
  have hnumeral : ∀ l : Layout, ∀ k : Nat,
      ofDigits (l.whole ++ l.fraction) = ofDigits n.significant * 10 ^ k →
      l.exponent.getD 0 - l.fraction.length + k
        = digitCount n.coefficient + n.exponent - n.significant.length →
      (l.numeral n.negative).toBinary64
        = (Numeral.mk n.negative (ofDigits n.significant)
            (digitCount n.coefficient + n.exponent - n.significant.length)).toBinary64 := by
    intro l k hdigits hexponent
    rw [Layout.numeral, hdigits, toBinary64_shift, hexponent]
  simp only [layout]
  split
  · rename_i hempty
    rw [List.isEmpty_iff.mp hempty]
    exact (toBinary64_zero _ _).trans (toBinary64_zero _ _).symm
  · rename_i hne
    have hlength : 0 < n.significant.length :=
      List.length_pos_of_ne_nil fun hnil => hne (List.isEmpty_iff.mpr hnil)
    split
    · -- no zeros are added, and the exponent counts from the first digit
      refine hnumeral _ 0 ?_ ?_
      · rw [List.take_append_drop, Nat.pow_zero, Nat.mul_one]
      · simp only [Option.getD_some, List.length_drop]
        omega
    · split
      · -- the zeros in front of the digits denote nothing
        refine hnumeral _ 0 ?_ ?_
        · show ofDigits (List.replicate (_ + 1) '0' ++ n.significant) = _
          rw [ofDigits_zeros_append, Nat.pow_zero, Nat.mul_one]
        · simp only [Option.getD_none, List.length_append, List.length_replicate]
          omega
      · split
        · -- the zeros up to the point and the one after it
          refine hnumeral _ ((digitCount n.coefficient + n.exponent : Int).toNat
            - n.significant.length + 1) ?_ ?_
          · show ofDigits (_ ++ _ ++ List.replicate 1 '0') = _
            rw [List.append_assoc, List.replicate_append_replicate, ofDigits_append_zeros]
          · simp only [Option.getD_none, List.length_singleton]
            omega
        · refine hnumeral _ 0 ?_ ?_
          · rw [List.take_append_drop, Nat.pow_zero, Nat.mul_one]
          · simp only [Option.getD_none, List.length_drop]
            omega

end Numeral

end IndexSearch.Number
