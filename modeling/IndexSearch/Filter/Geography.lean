import IndexSearch.Number.Fixed
import IndexSearch.QueryError

namespace IndexSearch

open Number

/-!
# Distances from a point

Coordinates and distances may be given as any value; `fixed` writes those that are numbers with six
decimal places and says why it cannot write the others. `distanceCall` is the call that measures the
distance of a field from a point.
-/

/-- The double of a whole number with six decimal places. An infinity stands for no number. -/
def wholeText : Binary64 → Except FixedFault String
  | .infinite _ => .error .tooLarge
  | x => .ok x.fixedText

/-- A moment with six decimal places is the format itself, unless its region fails. -/
def momentText (t : Time.DateTime) : Except FixedFault String :=
  match t.region.bind Time.Region.summerSilence with
  | none => .ok "f"
  | some e => .error (.raised e)

/-- A value with six decimal places. Moments and dates take the format itself for their text, and
    things of other kinds have their own ways. -/
def fixed : Value → Except FixedFault String
  | .real x => .ok x.fixedText
  | .bool b => .ok (Binary64.ofInt (if b then 1 else 0)).fixedText
  | .int n => wholeText (Binary64.ofInt n)
  | .decimal d => .ok d.fixedText
  | .dateTime t => momentText t
  | .date _ => .ok "f"
  | .object o => o.fixed.mapError .raised
  | .text _ => .error .text
  | v => .error (.kind v.typeName)

/-- A value with six decimal places, inside a query. -/
def fixedIn (v : Value) : Except QueryError String := (fixed v).mapError .notFixed

/-- The call that measures the distance between a field and a point. -/
def distanceCall (field longitude latitude : Value) : Except QueryError String := do
  let x ← fixedIn longitude
  let y ← fixedIn latitude
  return "geo.distance(" ++ field.plain ++ ", geography'POINT(" ++ x ++ " " ++ y ++ ")')"

end IndexSearch
