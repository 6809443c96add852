import IndexSearch.Number.Rounding

namespace IndexSearch.Number

/-!
# Double-precision numbers

A double is not a number, an infinity, or a sign with a magnitude `m · 2 ^ e` counted in units of
`2 ^ -1074`, the least positive double. `Canonical` picks one pair `(m, e)` for each magnitude, so
that two doubles are the same datum exactly when they are equal as terms.

* `Binary64.ofRatio` — the double nearest to a quotient, an infinity beyond the largest one;
* `Binary64.toRat?` — the exact value of a finite double, as a rational number.
-/

/-- The number of units in one: two to the power of 1074. -/
def unitsPerOne : Nat := Nat.pow 2 1074

/-- The number of mantissas: two to the power of 53. -/
def mantissaBound : Nat := 9007199254740992

/-- The least mantissa with all bits used: two to the power of 52. -/
def leastFull : Nat := 4503599627370496

/-- The pairs that stand for the magnitude of a double: 53 bits, and all of them used unless the
    exponent is the least one. -/
def Canonical (m e : Nat) : Prop := m < mantissaBound ∧ e ≤ 2045 ∧ (e = 0 ∨ leastFull ≤ m)

instance (m e : Nat) : Decidable (Canonical m e) :=
  inferInstanceAs (Decidable (m < mantissaBound ∧ e ≤ 2045 ∧ (e = 0 ∨ leastFull ≤ m)))

/-- A double-precision number. -/
inductive Binary64 where
  /-- Not a number. -/
  | nan
  /-- An infinity. -/
  | infinite (negative : Bool)
  /-- The magnitude `m · 2 ^ e` units of `2 ^ -1074`, with a sign. -/
  | finite (negative : Bool) (m e : Nat) (canonical : Canonical m e)
deriving DecidableEq

namespace Binary64

/-- The double with magnitude `m · 2 ^ e` units, an infinity if the pair is not canonical. -/
def pack (negative : Bool) (m e : Nat) : Binary64 :=
  if h : Canonical m e then .finite negative m e h else .infinite negative

/-- Zero with a sign. -/
def zero (negative : Bool) : Binary64 := .finite negative 0 0 (by decide)

/-- The double nearest to `num / den`; a half goes to the even mantissa, and what rounds beyond the
    largest double is infinite. -/
def ofRatio (negative : Bool) (num den : Nat) : Binary64 :=
  let units := num * unitsPerOne
  let e := (units / den).log2 - 52
  let m := roundHalfEven units (den * Nat.pow 2 e)
  if m = mantissaBound then pack negative leastFull (e + 1) else pack negative m e

/-- The double nearest to an integer. -/
def ofInt (n : Int) : Binary64 := ofRatio (n < 0) n.natAbs 1

/-- The number of units in the magnitude `m · 2 ^ e`. -/
def unitCount (m e : Nat) : Nat := m * Nat.pow 2 e

/-- The exact value of a finite double. -/
def toRat? : Binary64 → Option Rat
  | nan | infinite _ => none
  | finite negative m e _ =>
    let n : Int := unitCount m e
    some (mkRat (if negative then -n else n) unitsPerOne)

/-- The exact value of a finite double that is a whole number. -/
def toInt? (x : Binary64) : Option Int :=
  x.toRat?.bind fun r => if r.den = 1 then some r.num else none

/-- Whether the double is a zero of either sign. -/
def isZero : Binary64 → Bool
  | finite _ m _ _ => m == 0
  | _ => false

/-- Whether the double is above zero. -/
def isPositive : Binary64 → Bool
  | nan => false
  | infinite negative => !negative
  | finite negative m _ _ => !negative && m != 0

end Binary64

end IndexSearch.Number
