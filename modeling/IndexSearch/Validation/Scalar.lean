import IndexSearch.Text.Blank
import IndexSearch.Validation.Checked

namespace IndexSearch

open Number Text

/-!
# Lenient reading of simple values

Texts, numbers and truth values are accepted in more than one form: a whole number may be given as a
double without a fraction or as a text, a truth value as a word. Each function of this module checks
one kind.

* `Checked.text`, `Checked.int`, `Checked.number`, `Checked.bool` — the four kinds;
* `intOfChars` — the whole number that a text stands for.
-/

/-! ### Whole numbers -/

/-- Drops the zeros before the first other digit, underscores among them included; a zero before a
    point stays, as does the last character. A text that begins with a minus sign or another digit
    stays as it is. -/
def dropLeadingZeros (cs : List Char) : Option (List Char) :=
  match cs with
  | '0' :: r =>
    match r.dropWhile fun c => c = '0' || c = '_' with
    | [] => some (cs.drop (cs.length - 1))
    | '.' :: rest => some (cs.drop (cs.length - rest.length - 2))
    | d :: rest => if d.isDigit then some (d :: rest) else none
  | c :: _ => if c = '-' || c.isDigit then some cs else none
  | [] => none

/-- Drops a point with nothing but zeros after it, of which there has to be one. -/
def dropZeroFraction (cs : List Char) : List Char :=
  match cs.dropWhile (· ≠ '.') with
  | _ :: zeros => if !zeros.isEmpty && zeros.all (· = '0') then cs.takeWhile (· ≠ '.') else cs
  | [] => cs

/-- Reads digits with an optional minus sign; no zero precedes another digit. -/
def intOfDigits? (cs : List Char) : Option Int :=
  let (negative, ds) := match cs with
    | '-' :: r => (true, r)
    | _ => (false, cs)
  if ds.head? = some '0' && 1 < ds.length then none
  else (natOfChars? ds).map fun n => if negative then -(n : Int) else n

/-- The greatest number of digits that are read as a whole number. -/
def maxIntDigits : Nat := 4300

/-- The whole number that a text stands for: blanks around it, a sign, zeros before it, underscores
    between digits and a fraction of zeros are accepted. -/
def intOfChars (cs : List Char) : Except Fault Int :=
  let cs := trim cs
  let unsigned := match cs with
    | '+' :: r => if r.head? = some '-' then none else some r
    | _ => some cs
  match unsigned.bind dropLeadingZeros |>.map dropZeroFraction |>.bind withoutUnderscores? with
  | none => .error .intText
  | some ds =>
    if maxIntDigits < ds.length then .error .intSize
    else match intOfDigits? ds with
      | none => .error .intText
      | some n => .ok n

/-- The bound of whole numbers of 64 bits with a sign: two to the power of 63. -/
def wordBound : Int := 9223372036854775808

/-- The whole number that a double stands for, if it has no fraction and lies strictly between the
    bounds of 64 bits. -/
def intOfReal (x : Binary64) : Except Fault Int :=
  match x.toRat? with
  | none => .error .notFinite
  | some r =>
    if r.den ≠ 1 then .error .fraction
    else if -wordBound < r.num && r.num < wordBound then .ok r.num
    else .error .intSize

/-- The whole number that a decimal number stands for, if it has no fraction. -/
def intOfDecimal (d : Decimal) : Except Fault Int :=
  match d.toRat? with
  | none => .error .notFinite
  | some r => if r.den ≠ 1 then .error .fraction else .ok r.num

/-! ### Doubles -/

/-- The double that a text stands for: blanks around it are accepted, or else underscores between
    other characters. -/
def realOfChars (cs : List Char) : Except Fault Binary64 :=
  match Binary64.ofChars? (trim cs) with
  | some x => .ok x
  | none =>
    match (withoutUnderscores? cs).bind Binary64.ofChars? with
    | some x => .ok x
    | none => .error .numberText

/-- The double nearest to a decimal number. -/
def realOfDecimal : Decimal → Binary64
  | .finite n => n.toBinary64
  | .infinite negative => .infinite negative
  | .nan .. => .nan

/-! ### Truth values -/

/-- The words for the two truth values, in any case. -/
def boolWords : List (String × Bool) :=
  [("0", false), ("off", false), ("f", false), ("false", false), ("n", false), ("no", false),
    ("1", true), ("on", true), ("t", true), ("true", true), ("y", true), ("yes", true)]

/-- The truth value that a text stands for. -/
def boolOfText (s : String) : Except Fault Bool :=
  let word := String.ofList (s.toList.map Char.toLower)
  match boolWords.find? fun w => w.1 = word with
  | some w => .ok w.2
  | none => .error .boolText

/-- The truth value that a number stands for: one and zero are read, other whole numbers of 64 bits
    are refused as wrong and all other numbers as no truth values at all. -/
def boolOfReal (x : Binary64) : Except Fault Bool :=
  match intOfReal x with
  | .ok 0 => .ok false
  | .ok 1 => .ok true
  | .ok _ => .error .boolText
  | .error _ => .error .notBool

/-- The truth value that a whole number stands for. -/
def boolOfInt (n : Int) : Except Fault Bool :=
  if n = 0 then .ok false
  else if n = 1 then .ok true
  else if -wordBound ≤ n && n < wordBound then .error .boolText
  else .error .notBool

namespace Checked

/-- A fault at the value itself in the place of a result. -/
def ofExcept {α : Type} (x : Except Fault α) : Checked α := x.mapError fun f => [⟨[], f⟩]

/-- Reads a text from a text or from bytes. -/
def text : Value → Checked String
  | .text s => .ok s
  | .bytes bs =>
    match decodeUtf8? bs with
    | some s => .ok s
    | none => fault .notUnicode
  | _ => fault .notText

/-- Reads a whole number. -/
def int : Value → Checked Int
  | .int n => .ok n
  | .bool b => .ok (if b then 1 else 0)
  | .real x => ofExcept (intOfReal x)
  | .decimal d => ofExcept (intOfDecimal d)
  | .text s => ofExcept (intOfChars s.toList)
  | .bytes bs =>
    match decodeUtf8? bs with
    | some s => ofExcept (intOfChars s.toList)
    | none => fault .intText
  | _ => fault .notInt

/-- Reads a whole number that is at least `least`. -/
def intFrom (least : Nat) (v : Value) : Checked Nat := do
  let n ← int v
  if n < least then fault (.below least) else return n.toNat

/-- Reads a double. -/
def number : Value → Checked Binary64
  | .real x => .ok x
  | .int n =>
    match Binary64.ofInt n with
    | .infinite _ => fault .notNumber
    | x => .ok x
  | .bool b => .ok (Binary64.ofInt (if b then 1 else 0))
  | .decimal (.nan _ true _) => fault .notNumber
  | .decimal d => .ok (realOfDecimal d)
  | .text s => ofExcept (realOfChars s.toList)
  | .bytes bs =>
    match decodeUtf8? bs with
    | some s => ofExcept (realOfChars s.toList)
    | none => fault .numberText
  | _ => fault .notNumber

/-- Reads a truth value. -/
def bool : Value → Checked Bool
  | .bool b => .ok b
  | .int n => ofExcept (boolOfInt n)
  | .real x => ofExcept (boolOfReal x)
  | .decimal d => ofExcept (boolOfReal (realOfDecimal d))
  | .text s => ofExcept (boolOfText s)
  | .bytes bs =>
    match decodeUtf8? bs with
    | some s => ofExcept (boolOfText s)
    | none => fault .boolText
  | _ => fault .notBool

/-! ### Containers -/

/-- The elements of a list, a list of fixed length or a set. -/
def sequence? : Value → Option (List Value)
  | .list xs | .tuple xs | .set xs => some xs
  | _ => none

/-- Reads a list whose elements pass a check. -/
def list {α : Type} (check : Value → Checked α) (v : Value) : Checked (List α) :=
  match sequence? v with
  | some xs => each check xs
  | none => fault .notList

/-- Reads a list of fixed length whose elements pass a check. -/
def tuple {α : Type} (check : Value → Checked α) (v : Value) : Checked (List α) :=
  match sequence? v with
  | some xs => each check xs
  | none => fault .notTuple

/-- The name of a key on the way to an issue. -/
def keyPlace : Value → String
  | .text s => s
  | .int n => toString n
  | .bool b => if b then "1" else "0"
  | k => k.shown

/-- Reads an entry whose key is a text and whose value passes a check. -/
def entry {α : Type} (check : Value → Checked α) (e : Value × Value) : Checked (String × α) :=
  let key := ((text e.1).within "[key]").within (keyPlace e.1)
  both (·, ·) key ((check e.2).within (keyPlace e.1))

/-- Reads a mapping from texts to values that pass a check. -/
def mapping {α : Type} (check : Value → Checked α) : Value → Checked (List (String × α))
  | .mapping entries => all (entries.map (entry check))
  | _ => fault .notMapping

/-- The entries of a mapping from which a thing of the given name is made. -/
def model (name : String) : Value → Checked (List (Value × Value))
  | .mapping entries => .ok entries
  | _ => fault (.notModel name)

end Checked

end IndexSearch
