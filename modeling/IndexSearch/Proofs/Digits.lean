import IndexSearch.Number.Limit
import IndexSearch.Number.Shortest
import Mathlib.Algebra.Group.Int.Defs
import Mathlib.Algebra.Group.Nat.Defs
import Mathlib.Data.List.Basic

namespace IndexSearch.Number

/-!
# Decimal digits

Naturals and their decimal digits: `digits n` is a run of digits that is never empty, `ofDigits`
reads it back, and zeros in front of a run do not count.

* `ofDigits_digits` — the digits of a natural denote it;
* `digits_mul_ten` — ten times a natural has one zero more;
* `exists_digits_eq_cons` — the digits of a natural other than zero begin with another digit;
* `natOfChars?_padded` — a padded natural is read as the natural;
* `isShort_one`, `isShort_ten_pow` — a number that has few enough digits, and one that has not.
-/

/-! ### Runs of characters -/

/-- A run of characters that satisfy a predicate is taken whole. -/
theorem takeWhile_append_stop {p : Char → Bool} {w rest : List Char} (hw : ∀ c ∈ w, p c = true)
    (hr : ∀ c ∈ rest.head?, p c = false) : (w ++ rest).takeWhile p = w := by
  rw [List.takeWhile_append_of_pos hw]
  cases rest with
  | nil => simp
  | cons c r => simp [hr c rfl]

/-- What follows a run of characters that satisfy a predicate is left. -/
theorem dropWhile_append_stop {p : Char → Bool} {w rest : List Char} (hw : ∀ c ∈ w, p c = true)
    (hr : ∀ c ∈ rest.head?, p c = false) : (w ++ rest).dropWhile p = rest := by
  rw [List.dropWhile_append_of_pos hw]
  cases rest with
  | nil => simp
  | cons c r => simp [hr c rfl]

/-! ### Digits -/

/-- Digits are digits. -/
theorem isDigit_of_mem_digits {n : Nat} {c : Char} (h : c ∈ digits n) : c.isDigit = true :=
  Nat.isDigit_of_mem_toDigits (by decide) (by decide) h

/-- Every number has a digit. -/
theorem digits_ne_nil (n : Nat) : digits n ≠ [] := Nat.toDigits_ne_nil

/-- The text of a number has its digits. -/
theorem toList_toString (n : Nat) : (toString n).toList = digits n := Nat.toList_repr

/-- The digits of a natural denote it. -/
theorem ofDigits_digits (n : Nat) : ofDigits (digits n) = n := Nat.ofDigitChars_ten_toDigits

/-- Digits that others follow count for more. -/
theorem ofDigits_append (ds es : List Char) :
    ofDigits (ds ++ es) = ofDigits ds * 10 ^ es.length + ofDigits es := by
  show Nat.ofDigitChars 10 (ds ++ es) 0 = Nat.ofDigitChars 10 ds 0 * _ + Nat.ofDigitChars 10 es 0
  rw [Nat.ofDigitChars_append, Nat.ofDigitChars_eq_ofDigitChars_zero, Nat.mul_comm]

/-- A zero at the end multiplies by ten. -/
theorem ofDigits_append_zeros (ds : List Char) (k : Nat) :
    ofDigits (ds ++ List.replicate k '0') = ofDigits ds * 10 ^ k := by
  show Nat.ofDigitChars 10 (ds ++ List.replicate k '0') 0 = Nat.ofDigitChars 10 ds 0 * 10 ^ k
  rw [Nat.ofDigitChars_append, Nat.ofDigitChars_replicate_zero, Nat.mul_comm]

/-- Zeros at the front do not count. -/
theorem ofDigits_zeros_append (k : Nat) (ds : List Char) :
    ofDigits (List.replicate k '0' ++ ds) = ofDigits ds := by
  show Nat.ofDigitChars 10 (List.replicate k '0' ++ ds) 0 = Nat.ofDigitChars 10 ds 0
  rw [Nat.ofDigitChars_append, Nat.ofDigitChars_replicate_zero, Nat.mul_zero]

/-- Ten times a natural has one zero more at the end. -/
theorem digits_mul_ten {n : Nat} (hn : n ≠ 0) : digits (n * 10) = digits n ++ ['0'] := by
  have h := Nat.toDigits_append_toDigits (b := 10) (d := 0) (by decide) (Nat.pos_of_ne_zero hn)
    (by decide)
  rw [Nat.add_zero, Nat.mul_comm] at h
  exact h.symm

/-- Ten times a number has one digit more. -/
theorem digitCount_mul_ten {n : Nat} (hn : n ≠ 0) : digitCount (n * 10) = digitCount n + 1 := by
  rw [digitCount, digits_mul_ten hn, List.length_append, digitCount]
  rfl

/-- A number has at most `k` digits exactly if it is below the `k`-th power of ten. -/
theorem digitCount_le_iff {n k : Nat} (hk : 0 < k) : digitCount n ≤ k ↔ n < 10 ^ k :=
  Nat.length_toDigits_le_iff (by decide) hk

/-- The digits of a natural other than zero begin with another digit than zero. -/
theorem exists_digits_eq_cons {n : Nat} (hn : n ≠ 0) : ∃ d r, digits n = d :: r ∧ d ≠ '0' := by
  induction n using Nat.strongRecOn with
  | ind n ih =>
    rcases Nat.lt_or_ge n 10 with hlt | hge
    · refine ⟨Nat.digitChar n, [], Nat.toDigits_of_lt_base hlt, ?_⟩
      intro h
      -- a digit of its own is zero only for zero
      have hchar := Nat.toNat_digitChar_of_lt_ten hlt
      rw [h] at hchar
      have hzero : '0'.toNat = 48 := rfl
      omega
    · -- without its last digit the natural begins with the same one
      obtain ⟨d, r, hd, hne⟩ := ih (n / 10) (by omega) (by omega)
      refine ⟨d, r ++ [Nat.digitChar (n % 10)], ?_, hne⟩
      show Nat.toDigits 10 n = _
      rw [Nat.toDigits_of_base_le (by decide) hge]
      exact congrArg (· ++ [Nat.digitChar (n % 10)]) hd

/-- A padded number has its digits, after as many zeros as are missing. -/
theorem toList_padded (width n : Nat) :
    (padded width n).toList = List.replicate (width - (digits n).length) '0' ++ digits n := by
  simp [padded, List.leftpad]

/-- Padding adds nothing but digits. -/
theorem isDigit_of_mem_padded {width n : Nat} {c : Char} (h : c ∈ (padded width n).toList) :
    c.isDigit = true := by
  rw [toList_padded, List.mem_append] at h
  rcases h with h | h
  · rw [List.eq_of_mem_replicate h]; decide
  · exact isDigit_of_mem_digits h

/-- A padded number is read as the number. -/
theorem ofDigits_padded (width n : Nat) : ofDigits (padded width n).toList = n := by
  rw [toList_padded, ofDigits_zeros_append, ofDigits_digits]

/-- A padded natural is read as the natural. -/
theorem natOfChars?_padded (width n : Nat) : natOfChars? (padded width n).toList = some n := by
  have hall : (padded width n).toList.all Char.isDigit = true :=
    List.all_eq_true.mpr fun _ h => isDigit_of_mem_padded h
  -- even a width of zero leaves the digits of the natural
  have hne : (padded width n).toList.isEmpty = false := by
    rw [toList_padded, List.isEmpty_eq_false_iff]
    exact List.append_ne_nil_of_right_ne_nil _ (digits_ne_nil n)
  rw [natOfChars?, hall, hne, ofDigits_padded]
  rfl

/-! ### Too many digits -/

/-- One has few enough digits to be written and read. -/
theorem isShort_one : isShort 1 = true := by decide +kernel

/-- A number with one digit more than the limit has not. -/
theorem isShort_ten_pow : isShort (10 ^ 4300) = false := by decide +kernel

end IndexSearch.Number
