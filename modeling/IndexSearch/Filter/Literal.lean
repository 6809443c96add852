import IndexSearch.Value.Basic

namespace IndexSearch

open Number Text Time

/-!
# Literals

The values that a field can be compared with, and how each is written in the filter language: a text
between single quotes, which are doubled inside it; truth values and whole numbers as usual; doubles
with their shortest digits; moments in the zoned form.

* `Literal.ofValue?` — the values that have a literal;
* `Literal.written` — the literal, `Literal.faults` — why it cannot be written;
* `Literal.format` — the literal, or the first reason why there is none.
-/

/-- A value that a field can be compared with. -/
inductive Literal where
  /-- A text. -/
  | text (s : String)
  /-- A truth value. -/
  | bool (b : Bool)
  /-- A whole number. -/
  | int (n : Int)
  /-- A double-precision number. -/
  | real (x : Binary64)
  /-- A moment. -/
  | dateTime (t : DateTime)
deriving DecidableEq

/-- Single quotes around a text in which every single quote is doubled. -/
def quoteLiteral (cs : List Char) : List Char :=
  '\x27' :: cs.flatMap (fun c => if c = '\x27' then ['\x27', '\x27'] else [c]) ++ ['\x27']

namespace Literal

/-- The literal for a value, if it has one. -/
def ofValue? : Value → Option Literal
  | .text s => some (.text s)
  | .bool b => some (.bool b)
  | .int n => some (.int n)
  | .real x => some (.real x)
  | .dateTime t => some (.dateTime t)
  | _ => none

/-- The value that a literal stands for. -/
def toValue : Literal → Value
  | text s => .text s
  | bool b => .bool b
  | int n => .int n
  | real x => .real x
  | dateTime t => .dateTime t

/-- A literal is found again in the value that it is made of. -/
theorem ofValue?_toValue (l : Literal) : ofValue? l.toValue = some l := by
  cases l <;> rfl

/-- The names of the doubles without digits in the filter language. -/
def specialNames : SpecialNames := ⟨"NaN", "INF"⟩

/-- The literal as it is written in a filter. -/
def written : Literal → String
  | text s => String.ofList (quoteLiteral s.toList)
  | bool b => if b then "true" else "false"
  | int n => toString n
  | real x => x.text specialNames
  | dateTime t => t.zonedText

/-- Why a literal cannot be written: a whole number may be too long, and the zone of a moment may not
    tell its offset. -/
def faults : Literal → List TextFault
  | int n => TextFault.ofInt n
  | dateTime t => t.faults
  | _ => []

/-- The literal as it is written in a filter, if it can be. -/
def format (l : Literal) : Except TextFault String := do
  TextFault.check l.faults
  return l.written

end Literal

end IndexSearch
