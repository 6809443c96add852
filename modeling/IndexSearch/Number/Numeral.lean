import IndexSearch.Number.Binary64

namespace IndexSearch.Number

/-!
# Decimal numerals

A numeral is a signed coefficient times a power of ten, written `-12.5e3` and the like.

* `Numeral.ofChars?` — reads a whole text as a numeral;
* `Numeral.toBinary64` — the nearest double;
* `Binary64.ofChars?` — reads a numeral or the name of a special double.
-/

/-- The decimal number `± coefficient · 10 ^ exponent`. -/
structure Numeral where
  /-- Whether the number carries a minus sign; a zero may. -/
  negative : Bool
  /-- The digits, as one natural number. -/
  coefficient : Nat
  /-- The power of ten that the coefficient is multiplied by. -/
  exponent : Int
deriving DecidableEq

/-- The natural number that a list of decimal digits denotes. -/
def ofDigits (ds : List Char) : Nat :=
  ds.foldl (fun n d => 10 * n + (d.toNat - '0'.toNat)) 0

/-- Splits a leading sign off; the first part says whether it is a minus. -/
def splitSign : List Char → Bool × List Char
  | '-' :: r => (true, r)
  | '+' :: r => (false, r)
  | r => (false, r)

/-- Reads a non-empty run of digits that takes the whole text. -/
def natOfChars? (cs : List Char) : Option Nat :=
  if cs.isEmpty || !cs.all Char.isDigit then none else some (ofDigits cs)

/-- Whether underscores stand only between other characters, and never two together. -/
def goodUnderscores : List Char → Bool
  | [] => true
  | cs => cs.head? != some '_' && cs.getLast? != some '_'
      && !(cs.zip (cs.drop 1)).any fun (a, b) => a = '_' && b = '_'

/-- The text without its underscores, if they stand only between other characters. -/
def withoutUnderscores? (cs : List Char) : Option (List Char) :=
  if goodUnderscores cs then some (cs.filter (· ≠ '_')) else none

namespace Numeral

/-- Reads what may follow the digits of a numeral: nothing, or an exponent. -/
def exponentOfChars? : List Char → Option Int
  | [] => some 0
  | c :: r =>
    if c = 'e' || c = 'E' then
      let (negative, ds) := splitSign r
      (natOfChars? ds).map fun n => if negative then -(n : Int) else n
    else none

/-- Reads a numeral: an optional sign, digits with at most one point among or around them, and an
    optional exponent. -/
def ofChars? (cs : List Char) : Option Numeral :=
  let (negative, body) := splitSign cs
  let whole := body.takeWhile Char.isDigit
  let afterWhole := body.dropWhile Char.isDigit
  let (fraction, rest) := match afterWhole with
    | '.' :: r => (r.takeWhile Char.isDigit, r.dropWhile Char.isDigit)
    | r => ([], r)
  if whole.isEmpty && fraction.isEmpty then none
  else (exponentOfChars? rest).map fun e =>
    ⟨negative, ofDigits (whole ++ fraction), e - fraction.length⟩

/-- The double nearest to a numeral. Magnitudes of `10 ^ 310` and more are infinite and those below
    `10 ^ -330` are zero, whatever their digits. -/
def toBinary64 (n : Numeral) : Binary64 :=
  let magnitude : Int := digitCount n.coefficient + n.exponent
  if n.coefficient = 0 || magnitude < -330 then .zero n.negative
  else if 310 < magnitude then .infinite n.negative
  else match n.exponent with
    | .ofNat k => .ofRatio n.negative (n.coefficient * Nat.pow 10 k) 1
    | .negSucc k => .ofRatio n.negative n.coefficient (Nat.pow 10 (k + 1))

/-- The exact value of a numeral. -/
def toRat (n : Numeral) : Rat :=
  let c : Int := if n.negative then -(n.coefficient : Int) else n.coefficient
  match n.exponent with
  | .ofNat k => mkRat (c * Nat.pow 10 k) 1
  | .negSucc k => mkRat c (Nat.pow 10 (k + 1))

end Numeral

/-- Reads a double: a numeral, or a sign and one of the words `inf`, `infinity` and `nan` in any
    case. -/
def Binary64.ofChars? (cs : List Char) : Option Binary64 :=
  match Numeral.ofChars? cs with
  | some n => some n.toBinary64
  | none =>
    let (negative, word) := splitSign cs
    let word := word.map Char.toLower
    if word = "inf".toList || word = "infinity".toList then some (.infinite negative)
    else if word = "nan".toList then some .nan
    else none

end IndexSearch.Number
