import IndexSearch.Number.Binary64

namespace IndexSearch.Number

/-!
# Six decimal places

Coordinates and distances are written with exactly six digits after the point. The digits are those
of the multiple of `10 ^ -6` nearest to the exact value (`Binary64.millionths`), a half going to the
even last digit, and the sign is that of the double, also where all digits are zero.
-/

namespace Binary64

/-- The number of millionths nearest to the magnitude `m · 2 ^ e` units. -/
def millionths (m e : Nat) : Nat := roundHalfEven (unitCount m e * 1000000) unitsPerOne

/-- A number of millionths, with the point before its last six digits. -/
def millionthsText (n : Nat) : String := toString (n / 1000000) ++ "." ++ padded 6 (n % 1000000)

/-- The text of a double with six decimal places. -/
def fixedText : Binary64 → String
  | nan => "nan"
  | infinite negative => if negative then "-inf" else "inf"
  | finite negative m e _ => (if negative then "-" else "") ++ millionthsText (millionths m e)

end Binary64

end IndexSearch.Number
