import IndexSearch.Filter.Geography
import IndexSearch.Value.Equality

namespace IndexSearch

/-!
# Sort keys

Results are sorted by a field or by the distance of a field from a point. `SortKey.clause` is the
clause that asks the service for it, if the field has a text.
-/

/-- A part of a filter or a sort key that holds a value. -/
inductive Part where
  /-- The field. -/
  | field
  /-- The value that the field is compared with. -/
  | literal
  /-- The longitude of the point. -/
  | longitude
  /-- The latitude of the point. -/
  | latitude
  /-- The distance. -/
  | distance
  /-- All of a value that stands in the place of a filter. -/
  | whole
deriving DecidableEq

/-- Equality of parts. One that both sides share is equal to itself, also if it is not-a-number,
    which otherwise equals nothing. -/
def samePart (shared : Bool) (v w : Value) : Bool :=
  Value.same v w || shared && !Value.same v v && !Value.same w w

/-- What results are sorted by. -/
inductive SortKey where
  /-- The value of a field. -/
  | byField (field : Value) (direction : Direction)
  /-- The distance of a field from a point. -/
  | byDistance (longitude latitude : Value) (direction : Direction) (field : Value)

namespace SortKey

/-- The field whose distance is measured if none is named. -/
def defaultGeoField : String := "Geo"

/-- The direction that a value names. -/
def directionOf (v : Value) : Except QueryError Direction :=
  match Direction.ofValue? v with
  | some d => .ok d
  | none => do
    QueryError.check v.shownFaults
    throw (.notDirection v)

/-- Sorts by a field, which has to be named. -/
def ofField (field direction : Value) : Except QueryError SortKey := do
  let d ← directionOf direction
  if field.truthy then return byField field d else throw (.fieldMissing .order)

/-- Sorts by the distance of a field, which has to be named, from a point. -/
def ofDistance (longitude latitude direction field : Value) : Except QueryError SortKey := do
  let d ← directionOf direction
  if field.truthy then return byDistance longitude latitude d field
  else throw (.fieldMissing .distanceOrder)

/-- The clause for a sort key: what is sorted by, and the direction. -/
def clause : SortKey → Except QueryError String
  | byField field direction => .ok (field.plain ++ " " ++ direction.word)
  | byDistance longitude latitude direction field => do
    let call ← distanceCall field longitude latitude
    return call ++ " " ++ direction.word

/-- Why the field of a sort key cannot be written. -/
def fieldFaults : SortKey → List TextFault
  | byField field _ | byDistance _ _ _ field => field.plainFaults

/-- The name of the kind of a sort key. -/
def typeName : SortKey → String
  | byField .. => "ByField"
  | byDistance .. => "ByDistance"

/-- The form inside quoted values. -/
def shown : SortKey → String
  | byField field direction =>
    "ByField(field=" ++ field.shown ++ ", direction=" ++ direction.shown ++ ")"
  | byDistance longitude latitude direction field =>
    "ByDistance(longitude=" ++ longitude.shown ++ ", latitude=" ++ latitude.shown
      ++ ", direction=" ++ direction.shown ++ ", field=" ++ field.shown ++ ")"

/-- Why a sort key cannot be shown. -/
def shownFaults : SortKey → List TextFault
  | byField field _ => field.shownFaults
  | byDistance longitude latitude _ field =>
    longitude.shownFaults ++ latitude.shownFaults ++ field.shownFaults

/-- Equality of sort keys, of which some parts are shared: the same kind, with equal parts. -/
def same (shared : Part → Bool) : SortKey → SortKey → Bool
  | byField f d, byField g e => samePart (shared .field) f g && d == e
  | byDistance x y d f, byDistance u v e g =>
    samePart (shared .longitude) x u && samePart (shared .latitude) y v && d == e
      && samePart (shared .field) f g
  | _, _ => false

end SortKey

end IndexSearch
