import IndexSearch.Filter.Literal
import IndexSearch.Filter.Terms

namespace IndexSearch

/-!
# What can be wrong with a query

Filters, sort keys and search options are checked when they are made and again when they are written
out. Each way to fail is a constructor of `QueryError`; `QueryError.message` is its wording and
`QueryError.details?` the values that go with it. `QueryError.check` is the check of what is going to
be written.
-/

/-- What a field name is needed for. -/
inductive FieldUse where
  /-- To compare the field with a value. -/
  | comparison (value : Literal)
  /-- To measure the distance of the field from a point. -/
  | distance
  /-- To sort by the field. -/
  | order
  /-- To sort by the distance of the field. -/
  | distanceOrder

/-- Why a value cannot be written with a fixed number of decimals. -/
inductive FixedFault where
  /-- It is a text. -/
  | text
  /-- It is of a kind that has no number formats. -/
  | kind (typeName : String)
  /-- It is a whole number beyond the largest double. -/
  | tooLarge
  /-- It refuses to be. -/
  | raised (e : Raised)

/-- A search option that counts results. -/
inductive Paging where
  /-- The number of results to pass over. -/
  | skip
  /-- The number of results to return. -/
  | top
deriving DecidableEq

/-- The name of an option that counts results. -/
def Paging.name : Paging → String
  | skip => "skip"
  | top => "top"

/-- What can be wrong with a query. -/
inductive QueryError where
  /-- The value names no comparison. -/
  | notComparison (v : Value)
  /-- The value names no combiner. -/
  | notCombiner (v : Value)
  /-- The value names no direction. -/
  | notDirection (v : Value)
  /-- Values of this kind have no literal. -/
  | noLiteral (typeName : String)
  /-- No field is named. -/
  | fieldMissing (use : FieldUse)
  /-- A coordinate or distance cannot be written. -/
  | notFixed (fault : FixedFault)
  /-- A point is a thing without elements. -/
  | pointWithoutParts (typeName : String)
  /-- A point has fewer than two parts. -/
  | pointTooShort (length : Nat)
  /-- A point has more than two parts. -/
  | pointTooLong
  /-- The operands of an operator cannot be combined. -/
  | operands (operator : Combiner) (left right : String)
  /-- What stands in the place of a filter is none. -/
  | notFilter (shown : String)
  /-- What stands in the place of a sort key is none. -/
  | notSortKey (shown : String)
  /-- A thing cannot be gone through one by one. -/
  | notIterable (typeName : String)
  /-- The facets are a single text. -/
  | facetsAreText (s : String)
  /-- A count is no whole number. -/
  | countNotInteger (option : Paging) (v : Value)
  /-- A count is negative. -/
  | countNegative (option : Paging) (n : Int)
  /-- Something has no text. -/
  | unwritten (fault : TextFault)

namespace QueryError

/-- The wording of an error. -/
def message : QueryError → String
  | notComparison v => v.shown ++ " is not a valid Comparison"
  | notCombiner v => v.shown ++ " is not a valid Combiner"
  | notDirection v => v.shown ++ " is not a valid Direction"
  | noLiteral typeName => "Unsupported filter value type: " ++ typeName
  | fieldMissing (.comparison _) => "A field name is required when filtering on a value"
  | fieldMissing .distance => "A field name is required for a geo distance filter"
  | fieldMissing .order => "A field name is required to sort by field"
  | fieldMissing .distanceOrder => "A field name is required to sort by distance"
  | notFixed .text => "Unknown format code 'f' for object of type 'str'"
  | notFixed (.kind typeName) => "unsupported format string passed to " ++ typeName ++ ".__format__"
  | notFixed .tooLarge => "int too large to convert to float"
  | notFixed (.raised e) => e.message
  | pointWithoutParts typeName => "cannot unpack non-iterable " ++ typeName ++ " object"
  | pointTooShort n => "not enough values to unpack (expected 2, got " ++ toString n ++ ")"
  | pointTooLong => "too many values to unpack (expected 2)"
  | operands operator left right =>
    "unsupported operand type(s) for " ++ operator.sign ++ ": '" ++ left ++ "' and '" ++ right
      ++ "'"
  | notFilter shown => "Not a filter expression: " ++ shown
  | notSortKey shown => "Not a sort key: " ++ shown
  | notIterable typeName => "'" ++ typeName ++ "' object is not iterable"
  | facetsAreText _ => "Facets must be given as a list of expressions, not a single string"
  | countNotInteger option v => option.name ++ " must be an integer, got " ++ v.typeName
  | countNegative option _ => option.name ++ " must not be negative"
  | unwritten fault => fault.message

/-- The values that go with an error of a query; an error of the kind of a value has none. -/
def details? : QueryError → Option (List (String × Value))
  | fieldMissing (.comparison value) => some [("value", value.toValue)]
  | fieldMissing _ => some []
  | facetsAreText s => some [("facets", .text s)]
  | countNotInteger option v => some [(option.name, v)]
  | countNegative option n => some [(option.name, .int n)]
  | _ => none

/-- Fails with the first of the faults of something that is to be written, if there are any. -/
def check (faults : List TextFault) : Except QueryError Unit :=
  (TextFault.check faults).mapError unwritten

end QueryError

end IndexSearch
