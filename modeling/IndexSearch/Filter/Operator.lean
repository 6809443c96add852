import IndexSearch.Filter.Terms
import IndexSearch.Value.Equality

namespace IndexSearch

/-!
# Combiners as operators on values

The signs of the combiners also combine plain values of equal kind: truth values, whole numbers by
their bits in two's complement, sets by intersection and union, and mappings by union.
-/

namespace Value

/-- The bits set in both numbers. -/
def bitAnd : Int → Int → Int
  | .ofNat a, .ofNat b => (a &&& b : Nat)
  | .ofNat a, .negSucc b => (a ^^^ (a &&& b) : Nat)
  | .negSucc a, .ofNat b => (b ^^^ (a &&& b) : Nat)
  | .negSucc a, .negSucc b => .negSucc (a ||| b)

/-- The bits set in at least one of the numbers. -/
def bitOr : Int → Int → Int
  | .ofNat a, .ofNat b => (a ||| b : Nat)
  | .ofNat a, .negSucc b => .negSucc (b ^^^ (a &&& b))
  | .negSucc a, .ofNat b => .negSucc (a ^^^ (a &&& b))
  | .negSucc a, .negSucc b => .negSucc (a &&& b)

/-- A truth value or whole number as a whole number. -/
def bits? : Value → Option Int
  | bool b => some (if b then 1 else 0)
  | int n => some n
  | _ => none

/-- The common members of two sets, taken from the smaller one, or else from the right one. -/
def intersection (xs ys : List Value) : List Value :=
  if xs.length < ys.length then xs.filter fun x => ys.any (same x)
  else ys.filter fun y => xs.any (same y)

/-- The members of two sets. -/
def union (xs ys : List Value) : List Value :=
  xs ++ ys.filter fun y => !xs.any (same y)

/-- What a combiner makes of two plain values, if it can combine them. -/
def combine? (combiner : Combiner) (v w : Value) : Option Value :=
  match combiner, v, w with
  | .and, bool a, bool b => some (bool (a && b))
  | .or, bool a, bool b => some (bool (a || b))
  | .and, set xs, set ys => some (set (intersection xs ys))
  | .or, set xs, set ys => some (set (union xs ys))
  | .or, mapping es, mapping fs => some (mappingOf (es ++ fs))
  | c, v, w =>
    match v.bits?, w.bits? with
    | some a, some b => some (int (match c with | .and => bitAnd a b | .or => bitOr a b))
    | _, _ => none

end Value

end IndexSearch
