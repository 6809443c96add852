import IndexSearch.Proofs.Digits
import Mathlib.Tactic.NormNum.Pow
import Mathlib.Tactic.Ring

namespace IndexSearch.Number

/-!
# The double nearest to a numeral

The double that a numeral stands for depends on the number that it denotes, not on how the zeros are
split between coefficient and exponent, and the digits that are found for a double stand for that
double. A whole number has a double below a bound, half a step beyond the largest double.

* `Binary64.ofRatio_mul_right` — a quotient has one nearest double, whatever its parts are
  multiplied with;
* `Numeral.toBinary64_shift` — zeros move between the coefficient and the exponent;
* `Binary64.shortest_spec` — the shortest digits of a double stand for the double;
* `Binary64.exists_ofInt_eq_infinite_iff` — which whole numbers are beyond all doubles.
-/

/-- A fraction is rounded as it is when it is extended. -/
theorem roundHalfEven_mul_right (n d : Nat) {k : Nat} (hk : 0 < k) :
    roundHalfEven (n * k) (d * k) = roundHalfEven n d := by
  have hlt : 2 * (n % d * k) < d * k ↔ 2 * (n % d) < d := by
    rw [← Nat.mul_assoc, Nat.mul_lt_mul_right hk]
  have hgt : d * k < 2 * (n % d * k) ↔ d < 2 * (n % d) := by
    rw [← Nat.mul_assoc, Nat.mul_lt_mul_right hk]
  simp only [roundHalfEven, Nat.mul_div_mul_right _ _ hk, Nat.mul_mod_mul_right, hlt, hgt]

/-- A quotient below an even natural is rounded up to it if it is nearer to it than to the natural
    before, or equally near. -/
theorem roundHalfEven_eq_iff_of_lt {n d b : Nat} (hd : 0 < d) (hb : b % 2 = 0) (hn : n < b * d) :
    roundHalfEven n d = b ↔ 2 * (b * d) ≤ 2 * n + d := by
  have hparts : n / d * d + n % d = n := by
    rw [Nat.mul_comm]
    exact Nat.div_add_mod n d
  have hrest : n % d < d := Nat.mod_lt n hd
  have hlt : n / d < b := (Nat.div_lt_iff_lt_mul hd).mpr hn
  simp only [roundHalfEven]
  rcases Nat.lt_or_ge (n / d + 1) b with hfar | hnear
  · -- at least two below, so that even rounding up does not lead there
    have hmul : (n / d + 2) * d ≤ b * d := Nat.mul_le_mul_right d hfar
    rw [Nat.add_mul] at hmul
    refine iff_of_false ?_ (by omega)
    split
    · omega
    · split
      · omega
      · omega
  · -- one below, which is odd, so that a tie goes up
    have heq : b = n / d + 1 := by omega
    have hmul : b * d = n / d * d + d := by rw [heq, Nat.add_mul, Nat.one_mul]
    have hodd : n / d % 2 = 1 := by omega
    rw [hmul]
    split
    · omega
    · split
      · omega
      · omega

namespace Binary64

/-- A quotient has one nearest double, whatever both its parts are multiplied with. -/
theorem ofRatio_mul_right (negative : Bool) (num den : Nat) {k : Nat} (hk : 0 < k) :
    ofRatio negative (num * k) (den * k) = ofRatio negative num den := by
  have hunits : num * k * unitsPerOne = num * unitsPerOne * k := by ring
  have hden : ∀ p, den * k * p = den * p * k := fun p => by ring
  simp only [ofRatio, hunits, hden, Nat.mul_div_mul_right _ _ hk, roundHalfEven_mul_right _ _ hk]

end Binary64

namespace Numeral

/-- No digits denote a zero. -/
theorem toBinary64_zero (negative : Bool) (e : Int) :
    (Numeral.mk negative 0 e).toBinary64 = .zero negative := by
  simp [toBinary64]

/-- A zero at the end of the digits may be counted in the exponent. -/
theorem toBinary64_mul_ten (negative : Bool) (c : Nat) (e : Int) :
    (Numeral.mk negative (c * 10) e).toBinary64 = (Numeral.mk negative c (e + 1)).toBinary64 := by
  rcases Nat.eq_zero_or_pos c with rfl | hc
  · rw [Nat.zero_mul, toBinary64_zero, toBinary64_zero]
  · have hne : c ≠ 0 := Nat.ne_of_gt hc
    have hmagnitude : (digitCount (c * 10) : Int) + e = digitCount c + (e + 1) := by
      rw [digitCount_mul_ten hne]
      omega
    -- a number is zero on both sides or on neither
    have hzero : c * 10 = 0 ↔ c = 0 := by omega
    simp only [toBinary64, hmagnitude, hzero]
    split
    · rfl
    · split
      · rfl
      · -- both sides are quotients of which one is the other times a power of ten
        cases e with
        | ofNat k =>
          show Binary64.ofRatio negative (c * 10 * 10 ^ k) 1
            = Binary64.ofRatio negative (c * 10 ^ (k + 1)) 1
          rw [Nat.pow_succ', Nat.mul_assoc]
        | negSucc k =>
          cases k with
          | zero =>
            show Binary64.ofRatio negative (c * 10) (1 * 10)
              = Binary64.ofRatio negative (c * 1) 1
            rw [Binary64.ofRatio_mul_right _ _ _ (by decide), Nat.mul_one]
          | succ k =>
            show Binary64.ofRatio negative (c * 10) (10 ^ (k + 1) * 10)
              = Binary64.ofRatio negative c (10 ^ (k + 1))
            exact Binary64.ofRatio_mul_right _ _ _ (by decide)

/-- Zeros at the end of the coefficient may as well be counted by the exponent. -/
theorem toBinary64_shift (negative : Bool) (c k : Nat) (e : Int) :
    (Numeral.mk negative (c * 10 ^ k) e).toBinary64
      = (Numeral.mk negative c (e + k)).toBinary64 := by
  induction k generalizing e with
  | zero => simp
  | succ k ih =>
    have hexponent : e + 1 + (k : Int) = e + ((k + 1 : Nat) : Int) := by omega
    rw [Nat.pow_succ, ← Nat.mul_assoc, toBinary64_mul_ten, ih, hexponent]

/-- Within the limits of the doubles a fraction stands for the double nearest to it. -/
theorem toBinary64_fraction (negative : Bool) {c k : Nat} (hc : c ≠ 0)
    (hlow : k < digitCount c + 330) (hhigh : digitCount c ≤ k + 311) :
    (Numeral.mk negative c (Int.negSucc k)).toBinary64
      = .ofRatio negative c (Nat.pow 10 (k + 1)) := by
  have hnotZero : ¬ (c = 0 ∨ (digitCount c : Int) + Int.negSucc k < -330) := by omega
  have hnotInfinite : ¬ 310 < (digitCount c : Int) + Int.negSucc k := by omega
  simp only [toBinary64, Bool.or_eq_true, decide_eq_true_eq, if_neg hnotZero, if_neg hnotInfinite]

end Numeral

namespace Binary64

/-! ### The digits of a double -/

/-- There are units in one. -/
theorem unitsPerOne_pos : 0 < unitsPerOne := by
  -- of any power, since this one is too large to be computed in passing
  have hpow : ∀ k, 0 < Nat.pow 2 k := fun _ => Nat.pow_pos (by decide)
  unfold unitsPerOne
  exact hpow 1074

/-- A canonical pair is found again from the number of its units. -/
theorem log2_unitCount {m e : Nat} (h : Canonical m e) : (unitCount m e).log2 - 52 = e := by
  obtain ⟨hm, -, he⟩ := h
  have hbound : m < 2 ^ 53 := hm
  rcases he with rfl | hfull
  · -- a subnormal double has at most 53 bits, so nothing is left of them
    have hunits : unitCount m 0 = m := Nat.mul_one m
    rw [hunits]
    rcases Nat.eq_zero_or_pos m with rfl | hpos
    · rfl
    · have := (Nat.log2_lt (Nat.ne_of_gt hpos)).mpr hbound
      omega
  · -- a normal one has exactly 53 bits, and the exponent counts those that follow
    have hfull : 2 ^ 52 ≤ m := hfull
    have hunits : unitCount m e = m * 2 ^ e := rfl
    have hlow : 2 ^ (52 + e) ≤ m * 2 ^ e := by
      rw [Nat.pow_add]
      exact Nat.mul_le_mul_right _ hfull
    have hhigh : m * 2 ^ e < 2 ^ (52 + e + 1) := by
      rw [show 52 + e + 1 = 53 + e by omega, Nat.pow_add]
      exact Nat.mul_lt_mul_of_pos_right hbound (Nat.pow_pos (by decide))
    have hpos : m * 2 ^ e ≠ 0 := by
      have := Nat.pow_pos (n := 52 + e) (show 0 < 2 by decide)
      omega
    rw [hunits, (Nat.log2_eq_iff hpos).mpr ⟨hlow, hhigh⟩]
    omega

/-- The double nearest to a double is the double itself. -/
theorem ofRatio_unitCount (negative : Bool) {m e : Nat} (h : Canonical m e) :
    ofRatio negative (unitCount m e) unitsPerOne = .finite negative m e h := by
  have hdiv : unitCount m e * unitsPerOne / unitsPerOne = unitCount m e :=
    Nat.mul_div_cancel _ unitsPerOne_pos
  have hround : roundHalfEven (unitCount m e * unitsPerOne) (unitsPerOne * Nat.pow 2 e) = m := by
    have hpow : 0 < unitsPerOne * Nat.pow 2 e :=
      Nat.mul_pos unitsPerOne_pos (Nat.pow_pos (by decide))
    rw [unitCount, Nat.mul_assoc, Nat.mul_comm (Nat.pow 2 e), roundHalfEven_mul_left m hpow]
  -- nothing is rounded up, so the mantissa does not overflow
  have hne : m ≠ mantissaBound := Nat.ne_of_lt h.1
  simp only [ofRatio, hdiv, log2_unitCount h, hround, if_neg hne, pack, dif_pos h]

/-- Bounds for the number of digits of a product. -/
theorem digitCount_mul_bounds {u v p k l : Nat} (hu : 0 < u) (huv : u ≤ v) (hk : 0 < k)
    (hl : 0 < l) (hleast : Nat.pow 10 k ≤ p) (hgreatest : v * p < Nat.pow 10 l) :
    k < digitCount (u * p) ∧ digitCount (u * p) ≤ l := by
  constructor
  · rw [← Nat.not_le, digitCount_le_iff hk, Nat.not_lt]
    calc 10 ^ k ≤ p := hleast
      _ ≤ u * p := Nat.le_mul_of_pos_left p hu
  · rw [digitCount_le_iff hl]
    calc u * p ≤ v * p := Nat.mul_le_mul_right p huv
      _ < 10 ^ l := hgreatest

/-- The finite expansion of a positive magnitude has as many digits as leave it within the limits
    beyond which numerals are zero or infinite. -/
theorem digitCount_exact {m e : Nat} (h : Canonical m e) (hm : 0 < m) :
    743 < digitCount (unitCount m e * Nat.pow 5 1074) ∧
      digitCount (unitCount m e * Nat.pow 5 1074) ≤ 1383 := by
  obtain ⟨hbound, he, -⟩ := h
  have hpos : 0 < unitCount m e := Nat.mul_pos hm (Nat.pow_pos (by decide))
  have hgreater : ∀ k, e ≤ k → unitCount m e ≤ mantissaBound * Nat.pow 2 k := fun k hk =>
    Nat.mul_le_mul (Nat.le_of_lt hbound) (Nat.pow_le_pow_right (by decide) hk)
  exact digitCount_mul_bounds hpos (hgreater 2045 he) (by decide) (by decide) (by decide +kernel)
    (by decide +kernel)

/-- The finite expansion of a double stands for the double. -/
theorem toBinary64_exact (negative : Bool) {m e : Nat} (h : Canonical m e) :
    (exact negative (unitCount m e)).toBinary64 = .finite negative m e h := by
  rcases Nat.eq_zero_or_pos m with rfl | hm
  · -- zero has but one canonical pair
    obtain ⟨-, -, rfl | hfull⟩ := id h
    · have hzero : ∀ p, (Numeral.mk negative (0 * p) (-1074)).toBinary64 = .zero negative :=
        fun p => by rw [Nat.zero_mul, Numeral.toBinary64_zero]
      rw [exact, show unitCount 0 0 = 0 from rfl]
      exact hzero (Nat.pow 5 1074)
    · exact absurd hfull (by decide)
  · obtain ⟨hlow, hhigh⟩ := digitCount_exact h hm
    have hfive : 0 < Nat.pow 5 1074 := by decide +kernel
    -- one is made of `2 ^ 1074` units
    have hpow : Nat.pow 10 (1073 + 1) = unitsPerOne * Nat.pow 5 1074 := by decide +kernel
    have hcoefficient : unitCount m e * Nat.pow 5 1074 ≠ 0 :=
      Nat.ne_of_gt (Nat.mul_pos (Nat.mul_pos hm (Nat.pow_pos (by decide))) hfive)
    show (Numeral.mk negative (unitCount m e * Nat.pow 5 1074) (Int.negSucc 1073)).toBinary64 = _
    rw [Numeral.toBinary64_fraction negative hcoefficient (by omega) (by omega), hpow,
      ofRatio_mul_right _ _ _ hfive, ofRatio_unitCount negative h]

/-- A numeral that is found near a double denotes it. -/
theorem neighbour?_eq_some {x : Binary64} {negative : Bool} {units : Nat} {q : Int} {n : Numeral}
    (h : neighbour? x negative units q = some n) : n.toBinary64 = x ∧ n.negative = negative := by
  simp only [neighbour?] at h
  have hmem := List.mem_of_find?_eq_some h
  have hreads := List.find?_some h
  simp only [List.mem_cons, List.not_mem_nil, or_false] at hmem
  refine ⟨of_decide_eq_true hreads, ?_⟩
  rcases hmem with rfl | rfl <;> rfl

/-- The shortest digits of a double stand for the double, with its sign. -/
theorem shortest_spec (negative : Bool) {m e : Nat} (h : Canonical m e) :
    (shortest negative m e h).toBinary64 = .finite negative m e h
      ∧ (shortest negative m e h).negative = negative := by
  unfold shortest
  cases hfound : (List.range 17).findSome? fun n =>
      neighbour? (.finite negative m e h) negative (unitCount m e)
        (pointPosition (unitCount m e) - (n + 1 : Nat)) with
  | none =>
    -- it need not be known that seventeen digits are always enough
    simp only [hfound]
    exact ⟨toBinary64_exact negative h, rfl⟩
  | some n =>
    obtain ⟨k, -, hk⟩ := List.exists_of_findSome?_eq_some hfound
    simp only [hfound]
    exact neighbour?_eq_some hk

/-! ### Whole numbers beyond the doubles -/

/-- The least natural without a double: half a step beyond the largest double, where a half goes to
    the even neighbour, which is none any more. -/
@[irreducible] def overflowBound : Nat := 2 ^ 1024 - 2 ^ 970

/-- What is packed is an infinity exactly if there is no room for it. -/
theorem exists_pack_eq_infinite_iff (negative : Bool) (m e : Nat) :
    (∃ s, pack negative m e = .infinite s) ↔ ¬ Canonical m e := by
  unfold pack
  split
  · rename_i h
    exact iff_of_false (by rintro ⟨s, hs⟩; cases hs) (fun hn => hn h)
  · rename_i h
    exact iff_of_true ⟨_, rfl⟩ h

/-- With all bits used a mantissa has a double unless its exponent is too large, be it by the carry
    of rounding. -/
theorem exists_carried_eq_infinite_iff (negative : Bool) {m e : Nat} (hfull : leastFull ≤ m)
    (hle : m ≤ mantissaBound) :
    (∃ s, (if m = mantissaBound then pack negative leastFull (e + 1) else pack negative m e)
      = .infinite s) ↔ 2045 < e ∨ (e = 2045 ∧ m = mantissaBound) := by
  have hlt : leastFull < mantissaBound := by decide
  split
  · rw [exists_pack_eq_infinite_iff, Canonical]
    omega
  · rw [exists_pack_eq_infinite_iff, Canonical]
    omega

/-- The double nearest to nothing is a zero. -/
theorem ofRatio_zero (negative : Bool) : ofRatio negative 0 1 = .zero negative := by
  have hzero := ofRatio_unitCount negative (show Canonical 0 0 by decide)
  rw [← ofRatio_mul_right negative 0 1 unitsPerOne_pos, Nat.zero_mul, Nat.one_mul]
  exact hzero

/-- A full mantissa is rounded to at least as many bits, and to one bit more exactly if the units
    are nearer to the next power of two. -/
theorem round_full {units e : Nat} (hlow : 2 ^ (52 + e) ≤ units) (hhigh : units < 2 ^ (53 + e)) :
    leastFull ≤ roundHalfEven units (2 ^ e) ∧ roundHalfEven units (2 ^ e) ≤ mantissaBound
      ∧ (roundHalfEven units (2 ^ e) = mantissaBound
        ↔ 2 * (mantissaBound * 2 ^ e) ≤ 2 * units + 2 ^ e) := by
  have hpos : 0 < 2 ^ e := Nat.pow_pos (by decide)
  have hfull : leastFull * 2 ^ e ≤ units := by rwa [Nat.pow_add] at hlow
  have hlt : units < mantissaBound * 2 ^ e := by rwa [Nat.pow_add] at hhigh
  have hfloor : leastFull ≤ units / 2 ^ e := (Nat.le_div_iff_mul_le hpos).mpr hfull
  have hceil : units / 2 ^ e < mantissaBound := (Nat.div_lt_iff_lt_mul hpos).mpr hlt
  refine ⟨?_, ?_, roundHalfEven_eq_iff_of_lt hpos (by decide) hlt⟩
  -- rounding goes to one of the two whole numbers around the quotient
  all_goals
    simp only [roundHalfEven]
    split
    · omega
    · split <;> omega

/-- To double a number is to count one more in its logarithm. -/
theorem log2_mul_two_pow {n : Nat} (hn : n ≠ 0) (k : Nat) : (n * 2 ^ k).log2 = n.log2 + k := by
  obtain ⟨hlow, hhigh⟩ := (Nat.log2_eq_iff hn).mp rfl
  have hpos : 0 < 2 ^ k := Nat.pow_pos (by decide)
  rw [Nat.log2_eq_iff (Nat.mul_ne_zero hn (Nat.ne_of_gt hpos))]
  constructor
  · rw [Nat.pow_add]
    exact Nat.mul_le_mul_right _ hlow
  · rw [Nat.add_right_comm, Nat.pow_add]
    exact Nat.mul_lt_mul_of_pos_right hhigh hpos

/-- The logarithm of a number of units. -/
theorem log2_units {n : Nat} (hn : n ≠ 0) : (n * unitsPerOne).log2 = n.log2 + 1074 := by
  have hlog : ∀ k, (n * Nat.pow 2 k).log2 = n.log2 + k := log2_mul_two_pow hn
  unfold unitsPerOne
  exact hlog 1074

/-- The mantissa and the exponent of a natural: the exponent counts the bits that the mantissa has
    no place for, among those of the units. -/
theorem ofRatio_one_eq {negative : Bool} {n u e : Nat} (hn : n ≠ 0) (hu : n * unitsPerOne = u)
    (he : n.log2 + 1022 = e) : ofRatio negative n 1 =
      if roundHalfEven u (2 ^ e) = mantissaBound then pack negative leastFull (e + 1)
      else pack negative (roundHalfEven u (2 ^ e)) e := by
  have hlog : (u / 1).log2 - 52 = e := by
    rw [Nat.div_one, ← hu, ← he, log2_units hn]
    omega
  have hpow : (1 : Nat) * Nat.pow 2 e = 2 ^ e := Nat.one_mul _
  simp only [ofRatio, hu, hlog, hpow]

/-- The bound is half a step of the largest doubles below the next power of two. -/
theorem overflowBound_le_iff (n : Nat) : overflowBound ≤ n ↔
    2 * (mantissaBound * 2 ^ 2045) ≤ 2 * (n * unitsPerOne) + 2 ^ 2045 := by
  have hstep : 2 ^ 2045 = 2 * 2 ^ 970 * unitsPerOne := by decide +kernel
  have hbound : overflowBound = 2 * mantissaBound * 2 ^ 970 - 2 ^ 970 := by decide +kernel
  have hpos := unitsPerOne_pos
  rw [hstep, hbound]
  -- the powers are too long to be computed with, and the rest holds of any numbers
  generalize (2 : Nat) ^ 970 = p
  generalize unitsPerOne = u at hpos
  generalize mantissaBound = b
  calc 2 * b * p - p ≤ n
    _ ↔ 2 * b * p ≤ n + p := Nat.sub_le_iff_le_add
    _ ↔ 2 * b * p * (2 * u) ≤ (n + p) * (2 * u) :=
      (Nat.mul_le_mul_right_iff (by omega)).symm
    _ ↔ 2 * (b * (2 * p * u)) ≤ 2 * (n * u) + 2 * p * u := by
      rw [show 2 * b * p * (2 * u) = 2 * (b * (2 * p * u)) by ring,
        show (n + p) * (2 * u) = 2 * (n * u) + 2 * p * u by ring]

/-- **The limit of the whole numbers.** A natural is nearest to an infinity from the bound on. -/
theorem exists_ofRatio_one_eq_infinite_iff (negative : Bool) (n : Nat) :
    (∃ s, ofRatio negative n 1 = .infinite s) ↔ overflowBound ≤ n := by
  rcases Nat.eq_zero_or_pos n with rfl | hn
  · rw [ofRatio_zero]
    exact iff_of_false (by rintro ⟨s, hs⟩; cases hs) (by decide +kernel)
  · have hne : n ≠ 0 := Nat.ne_of_gt hn
    obtain ⟨u, hu⟩ : ∃ u, n * unitsPerOne = u := ⟨_, rfl⟩
    obtain ⟨l, hl⟩ : ∃ l, n.log2 = l := ⟨_, rfl⟩
    obtain ⟨hlow, hhigh⟩ := (Nat.log2_eq_iff hne).mp hl
    have hune : u ≠ 0 := hu ▸ Nat.mul_ne_zero hne (Nat.ne_of_gt unitsPerOne_pos)
    have hulog : u.log2 = 52 + (l + 1022) := by
      rw [← hu, log2_units hne, hl]
      omega
    obtain ⟨hulow, huhigh⟩ := (Nat.log2_eq_iff hune).mp hulog
    obtain ⟨hfull, hmantissa, hcarry⟩ := round_full hulow (by rwa [Nat.add_right_comm] at huhigh)
    rw [ofRatio_one_eq hne hu (congrArg (· + 1022) hl)]
    rw [exists_carried_eq_infinite_iff negative hfull hmantissa]
    -- only among the naturals with 1024 bits it depends on the rounding
    rcases Nat.lt_trichotomy l 1023 with hfew | rfl | hmany
    · have hsmall : n < overflowBound :=
        calc n < 2 ^ (l + 1) := hhigh
          _ ≤ 2 ^ 1023 := Nat.pow_le_pow_right (by decide) hfew
          _ < overflowBound := by decide +kernel
      exact iff_of_false (by omega) (Nat.not_le.mpr hsmall)
    · rw [overflowBound_le_iff, hu, ← hcarry]
      exact ⟨fun h => by omega, fun h => .inr ⟨rfl, h⟩⟩
    · have hlarge : overflowBound ≤ n :=
        calc overflowBound ≤ 2 ^ 1024 := by decide +kernel
          _ ≤ 2 ^ l := Nat.pow_le_pow_right (by decide) hmany
          _ ≤ n := hlow
      exact iff_of_true (.inl (by omega)) hlarge

/-- A whole number is nearest to an infinity exactly if its magnitude has reached the bound. -/
theorem exists_ofInt_eq_infinite_iff (n : Int) :
    (∃ s, ofInt n = .infinite s) ↔ overflowBound ≤ n.natAbs :=
  exists_ofRatio_one_eq_infinite_iff _ _

end Binary64

end IndexSearch.Number
