import IndexSearch.Number.Binary64

namespace IndexSearch

open Number

/-!
# JSON values

The data that requests and answers are made of. Whole numbers and doubles are two kinds of number,
and the fields of an object keep their order.

* `Json.insertField` — puts a value under a name, in the place of an earlier one;
* `Json.field?` — the value under a name.
-/

/-- A JSON value. -/
inductive Json where
  /-- Null. -/
  | null
  /-- A truth value. -/
  | bool (b : Bool)
  /-- A whole number of any size. -/
  | int (n : Int)
  /-- A double-precision number, special ones included. -/
  | real (x : Binary64)
  /-- A text. -/
  | text (s : String)
  /-- A list of values. -/
  | array (items : List Json)
  /-- Values under names, in order. -/
  | object (fields : List (String × Json))

namespace Json

instance : Inhabited Json := ⟨.null⟩

/-- Puts a value under a name: in the place of the earlier value if there is one, at the end
    otherwise. -/
def insertField {α : Type} (name : String) (v : α) : List (String × α) → List (String × α)
  | [] => [(name, v)]
  | (k, w) :: r => if k = name then (k, v) :: r else (k, w) :: insertField name v r

/-- The fields of an object read in order: of equal names the first keeps its place and the last its
    value. -/
def distinctFields {α : Type} (fields : List (String × α)) : List (String × α) :=
  fields.foldl (fun fs (k, v) => insertField k v fs) []

/-- The value under a name. -/
def field? {α : Type} (name : String) (fields : List (String × α)) : Option α :=
  (fields.find? fun f => f.1 = name).map Prod.snd

end Json

end IndexSearch
