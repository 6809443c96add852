import IndexSearch.Filter.Operator
import IndexSearch.SortKey

namespace IndexSearch

/-!
# Filters

A filter compares a field with a literal, or the distance of a field from a point with a number, or
joins two filters. Joining does not look at what it joins, so a tree may hold things that are no
filters at all: any value, or a sort key. They are found when the filter is written out.

* `Filter.onField`, `Filter.onDistance`, `Filter.near` — filters on one field;
* `Filter.join`, `Filter.and`, `Filter.or`, `Filter.all` — filters out of others;
* `Filter.operate` — the combiners as operators, which look at their left operand;
* `Filter.sameSharing`, `Filter.same` — equality of filters;
* `Filter.compile` — the filter in the language of the service: leaves in order, with the combiners
  between them and no parentheses.
-/

/-- The comparison of a field with a literal; without one it holds of everything. -/
structure FieldFilter where
  /-- The field. -/
  field : Value
  /-- The comparison. -/
  comparison : Comparison
  /-- The value that the field is compared with. -/
  literal : Option Literal

/-- The comparison of the distance between a field and a point with a number of kilometres. -/
structure DistanceFilter where
  /-- The field. -/
  field : Value
  /-- The longitude of the point. -/
  longitude : Value
  /-- The latitude of the point. -/
  latitude : Value
  /-- The comparison. -/
  comparison : Comparison
  /-- The distance in kilometres. -/
  distance : Value

/-- Why the comparison of a field with a literal cannot be written. -/
def FieldFilter.faults (f : FieldFilter) : List TextFault :=
  match f.literal with
  | none => []
  | some l => f.field.plainFaults ++ l.faults

/-- The comparison of a field with a literal as it is written, `true` without a literal. -/
def FieldFilter.compile (f : FieldFilter) : String :=
  match f.literal with
  | none => "true"
  | some l => f.field.plain ++ " " ++ f.comparison.word ++ " " ++ l.written

/-- The comparison of a distance as it is written, if the field has a text. -/
def DistanceFilter.compile (g : DistanceFilter) : Except QueryError String := do
  let call ← distanceCall g.field g.longitude g.latitude
  let d ← fixedIn g.distance
  return call ++ " " ++ g.comparison.word ++ " " ++ d

/-- The value that a field is compared with, null without a literal. -/
def FieldFilter.compared (f : FieldFilter) : Value := (f.literal.map Literal.toValue).getD .null

/-- A side of two filters joined. -/
inductive Side where
  /-- The filter before the combiner. -/
  | left
  /-- The filter after it. -/
  | right
deriving DecidableEq

/-- Which parts of two filters are one and the same thing: a part is given by the way to its filter,
    from the outermost one inwards. -/
abbrev Sharing := List Side → Part → Bool

/-- What is shared on one side of filters that are joined. -/
def Sharing.below (shared : Sharing) (side : Side) : Sharing := fun way => shared (side :: way)

/-- A filter, or what was given in its place. -/
inductive Filter where
  /-- The comparison of a field with a literal. -/
  | field (f : FieldFilter)
  /-- The comparison of a distance. -/
  | distance (g : DistanceFilter)
  /-- Two filters joined, in the order given. -/
  | joined (left : Filter) (combiner : Combiner) (right : Filter)
  /-- A sort key in the place of a filter. -/
  | sortKey (key : SortKey)
  /-- Another value in the place of a filter. -/
  | value (v : Value)

namespace Filter

/-! ### Filters on one field -/

/-- The comparison that a value names. -/
def comparisonOf (v : Value) : Except QueryError Comparison :=
  match Comparison.ofValue? v with
  | some c => .ok c
  | none => do
    QueryError.check v.shownFaults
    throw (.notComparison v)

/-- The literal for a value. -/
def literalOf (v : Value) : Except QueryError Literal :=
  match Literal.ofValue? v with
  | some l => .ok l
  | none => .error (.noLiteral v.typeName)

/-- Compares a field with a value. Null makes the filter hold of everything; any other value needs a
    literal and a field. -/
def onField (field comparison value : Value) : Except QueryError Filter := do
  let c ← comparisonOf comparison
  if value.isNull then return .field ⟨field, c, none⟩
  let l ← literalOf value
  if field.truthy then return .field ⟨field, c, some l⟩
  else throw (.fieldMissing (.comparison l))

/-- Compares the distance between a field and a point with a number of kilometres. -/
def onDistance (field longitude latitude comparison distance : Value) :
    Except QueryError Filter := do
  let c ← comparisonOf comparison
  if field.truthy then return .distance ⟨field, longitude, latitude, c, distance⟩
  else throw (.fieldMissing .distance)

/-- The two parts of a point. -/
def pointOf (point : Value) : Except QueryError (Value × Value) :=
  match point.elements? with
  | none => .error (.pointWithoutParts point.typeName)
  | some [x, y] => .ok (x, y)
  | some parts => .error (if parts.length < 2 then .pointTooShort parts.length else .pointTooLong)

/-- Compares the distance between a field and a point, given as a pair, with a number of
    kilometres. -/
def near (field point comparison distance : Value) : Except QueryError Filter := do
  let (longitude, latitude) ← pointOf point
  onDistance field longitude latitude comparison distance

/-- The filter that holds of everything. -/
def identity : Filter := field ⟨.null, .eq, none⟩

/-! ### Filters out of others -/

/-- Joins two filters with the combiner that a value names. -/
def join (left : Filter) (combiner : Value) (right : Filter) : Except QueryError Filter :=
  match Combiner.ofValue? combiner with
  | some c => .ok (joined left c right)
  | none => do
    QueryError.check combiner.shownFaults
    throw (.notCombiner combiner)

/-- Both filters hold. -/
def and (left right : Filter) : Filter := joined left .and right

/-- At least one of the filters holds. -/
def or (left right : Filter) : Filter := joined left .or right

/-- All filters of a list hold. The first of them follows the filter that holds of everything. -/
def all (filters : List Filter) : Filter := filters.foldl and identity

/-! ### Writing filters out -/

/-- The form inside quoted values. -/
def shown : Filter → String
  | field f =>
    "FieldFilter(field=" ++ f.field.shown ++ ", comparison=" ++ f.comparison.shown ++ ", value="
      ++ f.compared.shown ++ ")"
  | distance g =>
    "GeoDistanceFilter(field=" ++ g.field.shown ++ ", longitude=" ++ g.longitude.shown
      ++ ", latitude=" ++ g.latitude.shown ++ ", comparison=" ++ g.comparison.shown
      ++ ", distance_km=" ++ g.distance.shown ++ ")"
  | joined left combiner right =>
    "BinaryFilter(left=" ++ left.shown ++ ", combiner=" ++ combiner.shown ++ ", right="
      ++ right.shown ++ ")"
  | sortKey key => key.shown
  | value v => v.shown

/-- Why a filter cannot be shown. -/
def shownFaults : Filter → List TextFault
  | field f =>
    f.field.shownFaults ++ f.compared.shownFaults
  | distance g =>
    g.field.shownFaults ++ g.longitude.shownFaults ++ g.latitude.shownFaults
      ++ g.distance.shownFaults
  | joined left _ right => left.shownFaults ++ right.shownFaults
  | sortKey key => key.shownFaults
  | value v => v.shownFaults

/-- The filter in the language of the service, or the error of its first part that has no form
    there. -/
def compile : Filter → Except QueryError String
  | field f => do
    QueryError.check f.faults
    return f.compile
  | distance g => do
    QueryError.check g.field.plainFaults
    g.compile
  | joined left combiner right => do
    let l ← left.compile
    let r ← right.compile
    return l ++ " " ++ combiner.word ++ " " ++ r
  | sortKey key => do
    QueryError.check key.shownFaults
    throw (.notFilter key.shown)
  | value v => do
    QueryError.check v.shownFaults
    throw (.notFilter v.shown)

/-! ### Operators -/

/-- The name of the kind of a filter or of what stands in its place. -/
def typeName : Filter → String
  | field _ => "FieldFilter"
  | distance _ => "GeoDistanceFilter"
  | joined .. => "BinaryFilter"
  | sortKey key => key.typeName
  | value v => v.typeName

/-- A combiner as an operator: a filter on the left is joined with anything; two other values are
    combined by bits or members if they can be. -/
def operate (combiner : Combiner) (left right : Filter) : Except QueryError Filter :=
  match left, right with
  | value v, value w =>
    match Value.combine? combiner v w with
    | some u => .ok (value u)
    | none => .error (.operands combiner left.typeName right.typeName)
  | value _, _ | sortKey _, _ => .error (.operands combiner left.typeName right.typeName)
  | _, _ => .ok (joined left combiner right)

/-! ### Equality -/

/-- Equality of filters, of which some parts are shared: the same shape, with equal parts. -/
def sameSharing (shared : Sharing) : Filter → Filter → Bool
  | field f, field g =>
    samePart (shared [] .field) f.field g.field && f.comparison == g.comparison
      && samePart (shared [] .literal) f.compared g.compared
  | distance f, distance g =>
    samePart (shared [] .field) f.field g.field
      && samePart (shared [] .longitude) f.longitude g.longitude
      && samePart (shared [] .latitude) f.latitude g.latitude && f.comparison == g.comparison
      && samePart (shared [] .distance) f.distance g.distance
  | joined l c r, joined l' c' r' =>
    sameSharing (shared.below .left) l l' && c == c' && sameSharing (shared.below .right) r r'
  | sortKey k, sortKey k' => k.same (shared []) k'
  | value v, value w => samePart (shared [] .whole) v w
  | _, _ => false

/-- Equality of filters that share nothing. -/
def same (f g : Filter) : Bool := sameSharing (fun _ _ => false) f g

end Filter

end IndexSearch
