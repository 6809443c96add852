import IndexSearch.Number.Rounding

namespace IndexSearch

open Number

/-!
# What has no text

Not everything can be written. A whole number with more than 4300 digits is neither written nor
read, and a thing of a kind that this library knows nothing of may refuse to be written, with an
error of its own.

* `Number.isShort` — whether a whole number can be written and read;
* `Raised` — an error of a kind of its own;
* `TextFault` — why something has no text, `TextFault.check` — fails for the first reason.
-/

namespace Number

/-- The largest number of digits of a whole number that is written or read. -/
def digitLimit : Nat := 4300

/-- Whether a whole number has few enough digits to be written and read. The sign is not counted. The
    bound is too large to be computed in passing, hence not to be unfolded unasked. -/
@[irreducible]
def isShort (n : Int) : Bool := n.natAbs < Nat.pow 10 digitLimit

/-- The wording of the error for a whole number that is too long, with what more there is to say. -/
def tooLongMessage (more : String) : String :=
  "Exceeds the limit (" ++ toString digitLimit ++ " digits) for integer string conversion" ++ more
    ++ "; use sys.set_int_max_str_digits() to increase the limit"

end Number

/-- An error of a kind that is not one of this library's own. -/
structure Raised where
  /-- The name of the kind. -/
  kind : String
  /-- The wording. -/
  message : String
deriving DecidableEq

/-- Why something has no text. -/
inductive TextFault where
  /-- A whole number in it has too many digits. -/
  | tooLong
  /-- Something in it refuses to be written. -/
  | raised (e : Raised)
deriving DecidableEq

namespace TextFault

/-- The wording of the error. -/
def message : TextFault → String
  | tooLong => tooLongMessage ""
  | raised e => e.message

/-- The faults of a whole number. -/
def ofInt (n : Int) : List TextFault := if isShort n then [] else [tooLong]

/-- The faults of what is written or refuses to be. -/
def ofText : Except Raised String → List TextFault
  | .ok _ => []
  | .error e => [raised e]

/-- Fails with the first of the given faults, if there are any. -/
def check : List TextFault → Except TextFault Unit
  | [] => .ok ()
  | f :: _ => .error f

end TextFault

end IndexSearch
