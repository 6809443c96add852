import IndexSearch.Value.Basic

namespace IndexSearch

open Number Text Time

/-!
# Equality of values

Values are compared by what they stand for. Truth values, whole numbers, doubles and decimal numbers
are equal when they denote the same quantity, exactly; moments when they are the same instant;
mappings and sets whatever their order. Not-a-number and a thing without content equal nothing.

* `Value.quantity?` — the number that a value denotes;
* `Value.same` — equality;
* `Value.mappingOf` — a mapping in which equal keys are joined.
-/

/-- A number beyond all limits or an exact one. -/
inductive Quantity where
  /-- A rational number. -/
  | exact (r : Rat)
  /-- An infinity. -/
  | infinite (negative : Bool)
deriving DecidableEq

/-- The quantity that a double denotes. -/
def Quantity.ofBinary64? : Binary64 → Option Quantity
  | .nan => none
  | .infinite negative => some (infinite negative)
  | x => x.toRat?.map exact

/-- The quantity that a decimal number denotes. -/
def Quantity.ofDecimal? : Decimal → Option Quantity
  | .finite n => some (exact n.toRat)
  | .infinite negative => some (infinite negative)
  | .nan .. => none

namespace Value

/-- The quantity that a value denotes, if it is a number. -/
def quantity? : Value → Option Quantity
  | bool b => some (.exact (if b then 1 else 0))
  | int n => some (.exact n)
  | real x => Quantity.ofBinary64? x
  | decimal d => Quantity.ofDecimal? d
  | _ => none

/-- Equality of numbers. -/
def sameQuantity (a b : Value) : Bool :=
  match a.quantity?, b.quantity? with
  | some p, some q => p == q
  | _, _ => false

mutual

/-- Equality of values. -/
def same : Value → Value → Bool
  | null, null => true
  | text s, text t => s == t
  | bytes bs, bytes cs => bs == cs
  | dateTime s, dateTime t => s.sameInstant t
  | date d, date e => d == e
  | list xs, list ys => sameAll xs ys
  | tuple xs, tuple ys => sameAll xs ys
  | set xs, set ys => xs.length == ys.length && sameMembers xs ys
  | mapping es, mapping fs => es.length == fs.length && sameEntries es fs
  | a, b => sameQuantity a b

/-- Equality of lists, element by element. -/
def sameAll : List Value → List Value → Bool
  | [], [] => true
  | x :: xs, y :: ys => same x y && sameAll xs ys
  | _, _ => false

/-- Whether each value of the first list equals one of the second. -/
def sameMembers : List Value → List Value → Bool
  | [], _ => true
  | x :: xs, ys => ys.any (same x) && sameMembers xs ys

/-- Whether each entry of the first list equals one of the second. -/
def sameEntries : List (Value × Value) → List (Value × Value) → Bool
  | [], _ => true
  | (k, v) :: es, fs => fs.any (fun f => same k f.1 && same v f.2) && sameEntries es fs

end

/-- Puts a value under a key: in the place of an equal key if there is one, at the end otherwise. -/
def insertEntry (k v : Value) : List (Value × Value) → List (Value × Value)
  | [] => [(k, v)]
  | (l, w) :: r => if same l k then (l, v) :: r else (l, w) :: insertEntry k v r

/-- The mapping with the given entries; of equal keys the first stays, with the last value. -/
def mappingOf (entries : List (Value × Value)) : Value :=
  mapping (entries.foldl (fun es (k, v) => insertEntry k v es) [])

end Value

end IndexSearch
