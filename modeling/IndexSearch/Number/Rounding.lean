namespace IndexSearch.Number

/-!
# Rounding quotients and writing digits

Every number of this library that is shown with a limited count of digits, binary or decimal, is a
quotient of two naturals rounded to the nearest natural:

* `roundHalfEven n d` — the natural nearest to `n / d`; of two equally near, the even one;
* `digits` and `digitCount` — the decimal digits of a natural and how many there are;
* `padded` — the digits of a natural, filled up with zeros in front to a given width.
-/

/-- The natural number nearest to `n / d`; a half goes to the even neighbour. -/
def roundHalfEven (n d : Nat) : Nat :=
  let q := n / d
  let r := n % d
  if 2 * r < d then q
  else if d < 2 * r then q + 1
  else q + q % 2

/-- The decimal digits of `n`, most significant first; `0` has one digit. -/
def digits (n : Nat) : List Char := Nat.toDigits 10 n

/-- The number of decimal digits of `n`. -/
def digitCount (n : Nat) : Nat := (digits n).length

/-- The decimal digits of `n`, preceded by as many zeros as make `width` characters. -/
def padded (width n : Nat) : String := String.ofList ((digits n).leftpad width '0')

/-- A multiple of the divisor is its own quotient. -/
theorem roundHalfEven_mul_left {d : Nat} (n : Nat) (hd : 0 < d) : roundHalfEven (n * d) d = n := by
  simp [roundHalfEven, Nat.mul_mod_left, Nat.mul_div_cancel _ hd, hd]

/-- The rounded quotient is off by at most one half. -/
theorem roundHalfEven_near {d : Nat} (n : Nat) (hd : 0 < d) :
    2 * n ≤ 2 * (roundHalfEven n d * d) + d ∧ 2 * (roundHalfEven n d * d) ≤ 2 * n + d := by
  have hn := Nat.div_add_mod n d
  have hr := Nat.mod_lt n hd
  rw [Nat.mul_comm] at hn
  have hsucc : (n / d + 1) * d = n / d * d + d := by rw [Nat.add_mul, Nat.one_mul]
  simp only [roundHalfEven]
  split
  · omega
  · split
    · rw [hsucc]; omega
    · rcases Nat.mod_two_eq_zero_or_one (n / d) with h | h
      · rw [h]; simp only [Nat.add_zero]; omega
      · rw [h, hsucc]; omega

/-- Where the rounded quotient is off by one half, it is even. -/
theorem roundHalfEven_tie {n d : Nat} (hd : 0 < d)
    (h : 2 * (roundHalfEven n d * d) = 2 * n + d ∨ 2 * (roundHalfEven n d * d) + d = 2 * n) :
    roundHalfEven n d % 2 = 0 := by
  have hn := Nat.div_add_mod n d
  have hr := Nat.mod_lt n hd
  rw [Nat.mul_comm] at hn
  have hsucc : (n / d + 1) * d = n / d * d + d := by rw [Nat.add_mul, Nat.one_mul]
  simp only [roundHalfEven] at h ⊢
  split at h
  · omega
  · split at h
    · rw [hsucc] at h
      omega
    · rename_i hlow hhigh
      rw [if_neg hlow, if_neg hhigh]
      omega

end IndexSearch.Number
