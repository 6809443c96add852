import IndexSearch.Json.Basic
import IndexSearch.Number.Shortest
import IndexSearch.Value.Shown

namespace IndexSearch

open Number

/-!
# JSON and values

Every JSON value is a value. In the other direction lists of fixed length become lists, the keys of
a mapping become texts where there is a rule for it, and kinds that JSON lacks become their plain
texts.

* `Json.toValue` — the value that JSON denotes;
* `Value.toJson` — the JSON for a value, or the first thing within it that has none.
-/

namespace Json

mutual

/-- The value that JSON denotes. -/
def toValue : Json → Value
  | null => .null
  | bool b => .bool b
  | int n => .int n
  | real x => .real x
  | text s => .text s
  | array items => .list (toValues items)
  | object fields => .mapping (toEntries fields)

/-- The values of a list. -/
def toValues : List Json → List Value
  | [] => []
  | j :: r => toValue j :: toValues r

/-- The entries of an object. -/
def toEntries : List (String × Json) → List (Value × Value)
  | [] => []
  | (k, v) :: r => (.text k, toValue v) :: toEntries r

end

/-- The name that stands for a key in JSON, unless the key is of a kind that has none. -/
def nameOfKey? : Value → Option String
  | .text s => some s
  | .real x => some (x.text ⟨"NaN", "Infinity"⟩)
  | .bool b => some (if b then "true" else "false")
  | .null => some "null"
  | .int n => some (toString n)
  | _ => none

end Json

/-- Why a value has no JSON. -/
inductive JsonError where
  /-- A key is of a kind that has no text in JSON. -/
  | key (typeName : String)
  /-- Something within the value has no text. -/
  | text (fault : TextFault)
deriving DecidableEq

/-- The wording of the error. -/
def JsonError.message : JsonError → String
  | key typeName => "keys must be str, int, float, bool or None, not " ++ typeName
  | text fault => fault.message

namespace Value

/-- What stands for a thing in JSON, unless the thing has no text. -/
def unlessFaulty {α : Type} (faults : List TextFault) (a : α) : Except JsonError α := do
  (TextFault.check faults).mapError .text
  return a

/-- The name for a key in JSON. -/
def jsonName (k : Value) : Except JsonError String :=
  match Json.nameOfKey? k with
  | none => .error (.key k.typeName)
  | some name => unlessFaulty k.plainFaults name

mutual

/-- The JSON for a value. -/
def toJson : Value → Except JsonError Json
  | null => .ok .null
  | bool b => .ok (.bool b)
  | int n => unlessFaulty (TextFault.ofInt n) (.int n)
  | real x => .ok (.real x)
  | text s => .ok (.text s)
  | list xs => (toJsonItems xs).map .array
  | tuple xs => (toJsonItems xs).map .array
  | mapping entries => (toJsonFields entries).map .object
  | v => unlessFaulty v.plainFaults (.text v.plain)

/-- The JSON for each value. -/
def toJsonItems : List Value → Except JsonError (List Json)
  | [] => .ok []
  | v :: r => do
    let j ← toJson v
    let js ← toJsonItems r
    return j :: js

/-- The fields for entries, in their order; the name of each comes before its value. -/
def toJsonFields : List (Value × Value) → Except JsonError (List (String × Json))
  | [] => .ok []
  | (k, v) :: r => do
    let name ← jsonName k
    let j ← toJson v
    let fs ← toJsonFields r
    return (name, j) :: fs

end

end Value

end IndexSearch
