import IndexSearch.Number.Numeral

namespace IndexSearch.Number

/-!
# The shortest text of a double

A finite double is written with the fewest digits that read back as the same double, and with the
nearest such digits. `Binary64.shortest` finds the digits, `Numeral.text` lays them out: positional
from `0.0001` up to sixteen digits before the point, and with an exponent of two digits or more
outside of that. `Binary64.text` adds the sign and the names of the special doubles, which differ
from format to format.
-/

namespace Binary64

/-- The number of digits before the point of a positive magnitude of `units` units: the least `k`
    for which the magnitude is below `10 ^ k`. -/
def pointPosition (units : Nat) : Int := digitCount (units * Nat.pow 10 340 / unitsPerOne) - 340

/-- The magnitude of `units` units as a fraction of `10 ^ q`. -/
def onGrid (units : Nat) : Int → Nat × Nat
  | .ofNat k => (units, unitsPerOne * Nat.pow 10 k)
  | .negSucc k => (units * Nat.pow 10 (k + 1), unitsPerOne)

/-- The nearest multiple of `10 ^ q` that reads back as `x`, if one of the two neighbours does;
    of two equally near the even one is tried first. -/
def neighbour? (x : Binary64) (negative : Bool) (units : Nat) (q : Int) : Option Numeral :=
  let (num, den) := onGrid units q
  let nearest := roundHalfEven num den
  let below := num / den
  let other := if nearest = below then below + 1 else below
  [⟨negative, nearest, q⟩, ⟨negative, other, q⟩].find? fun n : Numeral => n.toBinary64 = x

/-- The finite decimal expansion of a magnitude of `units` units. -/
def exact (negative : Bool) (units : Nat) : Numeral := ⟨negative, units * Nat.pow 5 1074, -1074⟩

/-- The numeral with the fewest digits that reads back as the given double. -/
def shortest (negative : Bool) (m e : Nat) (h : Canonical m e) : Numeral :=
  let units := unitCount m e
  let point := pointPosition units
  ((List.range 17).findSome? fun n =>
    neighbour? (.finite negative m e h) negative units (point - (n + 1 : Nat))).getD
      (exact negative units)

end Binary64

/-- The digits of a numeral without the zeros at its end. -/
def Numeral.significant (n : Numeral) : List Char :=
  ((digits n.coefficient).reverse.dropWhile (· = '0')).reverse

/-- An exponent: its sign and at least two digits. -/
def exponentText (e : Int) : String :=
  (if e < 0 then "-" else "+") ++ padded 2 e.natAbs

/-- The unsigned text of a numeral: positional where the point falls within the digits, up to four
    places before them or up to the sixteenth place, and scientific elsewhere. -/
def Numeral.text (n : Numeral) : String :=
  let ds := n.significant
  let point : Int := digitCount n.coefficient + n.exponent
  if ds.isEmpty then "0.0"
  else if point ≤ -4 || 16 < point then
    let mantissa := match ds with
      | [d] => [d]
      | d :: r => d :: '.' :: r
      | [] => []
    String.ofList mantissa ++ "e" ++ exponentText (point - 1)
  else if point ≤ 0 then
    String.ofList ("0.".toList ++ List.replicate (-point).toNat '0' ++ ds)
  else if ds.length ≤ point.toNat then
    String.ofList (ds ++ List.replicate (point.toNat - ds.length) '0' ++ ".0".toList)
  else
    String.ofList (ds.take point.toNat ++ '.' :: ds.drop point.toNat)

/-- The words by which a format calls the doubles that have no digits. -/
structure SpecialNames where
  /-- The name of not-a-number. -/
  nan : String
  /-- The name of the positive infinity; the negative one has a minus sign before it. -/
  infinity : String

/-- The text of a double: its shortest digits, or the name of a special double. -/
def Binary64.text (names : SpecialNames) : Binary64 → String
  | .nan => names.nan
  | .infinite negative => (if negative then "-" else "") ++ names.infinity
  | .finite negative m e h =>
    (if negative then "-" else "") ++ (Binary64.shortest negative m e h).text

end IndexSearch.Number
