import IndexSearch.Value.Basic

namespace IndexSearch

open Number Text Time

/-!
# The texts of values

A value is put into a text in one of two ways. `Value.plain` writes a text as it is and a moment in
its written form; `Value.shown` quotes texts and writes moments and decimal numbers as expressions.
Values inside other values are always shown.

Some values have no text. What stands in the way is told by `Value.plainFaults` and
`Value.shownFaults`, in the order in which a value is written; the text that `plain` and `shown`
give is that of the value only if there is no fault.
-/

namespace Value

/-- The names of the doubles without digits inside values. -/
def specialNames : SpecialNames := ⟨"nan", "inf"⟩

/-- The word for a truth value. -/
def boolText (b : Bool) : String := if b then "True" else "False"

/-- Texts with a comma and a blank between them, in brackets. -/
def bracketed (opening closing : String) (parts : List String) : String :=
  opening ++ ", ".intercalate parts ++ closing

/-- A text, or nothing in the place of what refuses to be written. -/
def textOrNothing (x : Except Raised String) : String := x.toOption.getD ""

mutual

/-- The value as it is shown inside other values. -/
def shown : Value → String
  | null => "None"
  | bool b => boolText b
  | int n => toString n
  | real x => x.text specialNames
  | text s => quoted s
  | bytes bs => quotedBytes bs
  | dateTime t => t.expression
  | date d => d.expression
  | decimal d => "Decimal('" ++ d.text ++ "')"
  | list xs => bracketed "[" "]" (shownAll xs)
  | tuple [x] => "(" ++ shown x ++ ",)"
  | tuple xs => bracketed "(" ")" (shownAll xs)
  | set [] => "set()"
  | set xs => bracketed "\x7b" "\x7d" (shownAll xs)
  | mapping entries => bracketed "\x7b" "\x7d" (shownEntries entries)
  | object o => textOrNothing o.shown

/-- Each value as it is shown. -/
def shownAll : List Value → List String
  | [] => []
  | x :: r => shown x :: shownAll r

/-- Each key and value as they are shown, with a colon between them. -/
def shownEntries : List (Value × Value) → List String
  | [] => []
  | (k, v) :: r => (shown k ++ ": " ++ shown v) :: shownEntries r

end

/-- The value as it is written into a text. -/
def plain : Value → String
  | text s => s
  | dateTime t => t.text " "
  | date d => d.text
  | decimal d => d.text
  | object o => textOrNothing o.plain
  | v => v.shown

/-! ### Values without a text -/

mutual

/-- Why a value cannot be shown. -/
def shownFaults : Value → List TextFault
  | int n => TextFault.ofInt n
  | object o => TextFault.ofText o.shown
  | list xs | tuple xs | set xs => shownFaultsOfAll xs
  | mapping entries => shownFaultsOfEntries entries
  | _ => []

/-- Why values cannot be shown one after the other. -/
def shownFaultsOfAll : List Value → List TextFault
  | [] => []
  | x :: r => shownFaults x ++ shownFaultsOfAll r

/-- Why keys and values cannot be shown one after the other. -/
def shownFaultsOfEntries : List (Value × Value) → List TextFault
  | [] => []
  | (k, v) :: r => shownFaults k ++ shownFaults v ++ shownFaultsOfEntries r

end

/-- Why a value cannot be written into a text. -/
def plainFaults : Value → List TextFault
  | dateTime t => t.faults
  | object o => TextFault.ofText o.plain
  | v => v.shownFaults

end Value

end IndexSearch
