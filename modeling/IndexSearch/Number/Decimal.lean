import IndexSearch.Number.Numeral

namespace IndexSearch.Number

/-!
# Decimal floating-point numbers

A `Decimal` keeps the digits it was written with: `1.50` and `1.5` are equal numbers with different
texts.

* `Decimal.text` — the scientific text, positional unless digits would have to be invented;
* `Decimal.fixedText` — the positional text, whatever the exponent.
-/

/-- A decimal floating-point number. -/
inductive Decimal where
  /-- A number with finitely many digits. -/
  | finite (n : Numeral)
  /-- An infinity. -/
  | infinite (negative : Bool)
  /-- Not a number; the digits are a diagnostic without influence on any operation. -/
  | nan (negative signaling : Bool) (diagnostic : List Char)
deriving DecidableEq

namespace Decimal

/-- Reads a decimal number or the name of a special one. -/
def ofChars? (cs : List Char) : Option Decimal :=
  let cs := cs.filter (· ≠ '_')
  match Numeral.ofChars? cs with
  | some n => some (.finite n)
  | none =>
    let (negative, word) := splitSign cs
    let name := (word.takeWhile Char.isAlpha).map Char.toLower
    let rest := word.dropWhile Char.isAlpha
    if (name = "inf".toList || name = "infinity".toList) && rest.isEmpty then
      some (.infinite negative)
    else if name = "nan".toList && rest.all Char.isDigit then
      some (.nan negative false (rest.dropWhile (· = '0')))
    else if name = "snan".toList && rest.all Char.isDigit then
      some (.nan negative true (rest.dropWhile (· = '0')))
    else none

/-- A minus sign for negative numbers. -/
def sign (negative : Bool) : String := if negative then "-" else ""

/-- The name of a special decimal number. -/
def nanText (negative signaling : Bool) (diagnostic : List Char) : String :=
  sign negative ++ (if signaling then "sNaN" else "NaN") ++ String.ofList diagnostic

/-- Digits with a point after the first `place` of them, filled up with zeros on either side. -/
def placed (ds : List Char) (place : Int) : String :=
  if place ≤ 0 then
    String.ofList ("0.".toList ++ List.replicate (-place).toNat '0' ++ ds)
  else if ds.length ≤ place.toNat then
    String.ofList (ds ++ List.replicate (place.toNat - ds.length) '0')
  else
    String.ofList (ds.take place.toNat ++ '.' :: ds.drop place.toNat)

/-- The text of a decimal number: positional if its exponent is not positive and at most six zeros
    follow the point, scientific otherwise. -/
def text : Decimal → String
  | infinite negative => sign negative ++ "Infinity"
  | nan negative signaling diagnostic => nanText negative signaling diagnostic
  | finite n =>
    let ds := digits n.coefficient
    let point : Int := ds.length + n.exponent
    if n.exponent ≤ 0 && -6 < point then sign n.negative ++ placed ds point
    else
      let e := point - 1
      sign n.negative ++ placed ds 1 ++ "E" ++ (if e < 0 then "-" else "+") ++ toString e.natAbs

/-- The positional text of a decimal number. -/
def fixedText : Decimal → String
  | infinite negative => sign negative ++ "Infinity"
  | nan negative signaling diagnostic => nanText negative signaling diagnostic
  | finite n =>
    if n.coefficient = 0 && 0 < n.exponent then sign n.negative ++ "0"
    else
      let ds := digits n.coefficient
      sign n.negative ++ placed ds (ds.length + n.exponent)

/-- The exact value of a finite decimal number. -/
def toRat? : Decimal → Option Rat
  | finite n => some n.toRat
  | _ => none

/-- Whether the number is a zero of either sign. -/
def isZero : Decimal → Bool
  | finite n => n.coefficient == 0
  | _ => false

end Decimal

end IndexSearch.Number
