import IndexSearch.Number.Decimal
import IndexSearch.Number.Shortest
import IndexSearch.Text.Decoding
import IndexSearch.Time.Calendar

namespace IndexSearch

open Number Text Time

/-!
# Values

Callers hand over data of many kinds: a field may be compared with a text or a moment, a document
may hold any nested data. `Value` is that data. What a function does with a value of a kind it does
not expect is part of the function, so the kinds are all of one type.

* `Value.typeName` — the name of the kind, as messages give it;
* `Value.truthy` — whether the value counts as present: it is not null, false, zero or empty;
* `Value.elements?` — the elements that the value offers when it is gone through one by one.
-/

/-- A thing of a kind that this library knows nothing of. It has its own ways of being written, and
    may refuse each of them. -/
structure Thing where
  /-- The name of the kind. -/
  typeName : String
  /-- Whether it counts as present. -/
  truthy : Bool
  /-- As it is written into a text. -/
  plain : Except Raised String
  /-- As it is shown inside other values. -/
  shown : Except Raised String
  /-- As it is written with six decimal places. -/
  fixed : Except Raised String

/-- A thing without content: it is shown as what it is, and no number format applies to it. -/
def Thing.bare : Thing where
  typeName := "object"
  truthy := true
  plain := .ok "<object object>"
  shown := .ok "<object object>"
  fixed := .error ⟨"TypeError", "unsupported format string passed to object.__format__"⟩

/-- Data of any kind. -/
inductive Value where
  /-- The absence of a value. -/
  | null
  /-- A truth value. -/
  | bool (b : Bool)
  /-- A whole number of any size. -/
  | int (n : Int)
  /-- A double-precision number. -/
  | real (x : Binary64)
  /-- A text. -/
  | text (s : String)
  /-- A string of bytes. -/
  | bytes (bs : List UInt8)
  /-- A moment. -/
  | dateTime (t : DateTime)
  /-- A date. -/
  | date (d : Date)
  /-- A decimal number. -/
  | decimal (d : Decimal)
  /-- A list. -/
  | list (xs : List Value)
  /-- A list of fixed length. -/
  | tuple (xs : List Value)
  /-- A collection of distinct values. -/
  | set (xs : List Value)
  /-- Values under distinct keys, in order of insertion. -/
  | mapping (entries : List (Value × Value))
  /-- A thing of another kind. -/
  | object (o : Thing)

namespace Value

instance : Inhabited Value := ⟨.null⟩

/-- The name of the kind of a value. -/
def typeName : Value → String
  | null => "NoneType"
  | bool _ => "bool"
  | int _ => "int"
  | real _ => "float"
  | text _ => "str"
  | bytes _ => "bytes"
  | dateTime _ => "datetime"
  | date _ => "date"
  | decimal _ => "Decimal"
  | list _ => "list"
  | tuple _ => "tuple"
  | set _ => "set"
  | mapping _ => "dict"
  | object o => o.typeName

/-- Whether the value counts as present. -/
def truthy : Value → Bool
  | null => false
  | bool b => b
  | int n => n != 0
  | real x => !x.isZero
  | text s => !s.isEmpty
  | bytes bs => !bs.isEmpty
  | decimal d => !d.isZero
  | list xs | tuple xs | set xs => !xs.isEmpty
  | mapping entries => !entries.isEmpty
  | dateTime _ | date _ => true
  | object o => o.truthy

/-- Whether the value is null. -/
def isNull : Value → Bool
  | null => true
  | _ => false

/-- The elements of a collection: the keys of a mapping, the characters of a text, the numbers of
    the bytes of a string of bytes. -/
def elements? : Value → Option (List Value)
  | list xs | tuple xs | set xs => some xs
  | mapping entries => some (entries.map Prod.fst)
  | text s => some (s.toList.map fun c => text (String.singleton c))
  | bytes bs => some (bs.map fun b => int b.toNat)
  | _ => none

/-- A mapping with texts as keys. -/
def ofFields (fields : List (String × Value)) : Value :=
  mapping (fields.map fun (k, v) => (text k, v))

/-- The value under a text key. -/
def field? (name : String) : List (Value × Value) → Option Value
  | [] => none
  | (text k, v) :: r => if k = name then some v else field? name r
  | _ :: r => field? name r

end Value

end IndexSearch
