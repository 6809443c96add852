import IndexSearch.Value.Shown

namespace IndexSearch

/-!
# The words of the filter and sort languages

Comparisons, combiners and directions are given by callers as values; only the texts of the words
themselves name one. Inside quoted values a word is shown with its family and its name.
-/

/-- How a field is compared with a value. -/
inductive Comparison where
  /-- Equal. -/
  | eq
  /-- Not equal. -/
  | ne
  /-- Greater than. -/
  | gt
  /-- Less than. -/
  | lt
  /-- Greater than or equal. -/
  | ge
  /-- Less than or equal. -/
  | le
deriving DecidableEq

/-- How two filters are joined. -/
inductive Combiner where
  /-- Both hold. -/
  | and
  /-- At least one holds. -/
  | or
deriving DecidableEq

/-- The order in which results are listed. -/
inductive Direction where
  /-- The least first. -/
  | ascending
  /-- The greatest first. -/
  | descending
deriving DecidableEq

/-- The form of a word inside quoted values. -/
def shownWord (family name word : String) : String :=
  "<" ++ family ++ "." ++ name ++ ": '" ++ word ++ "'>"

/-- The first of the given words whose text is the value. -/
def wordOf? {α : Type} (word : α → String) (all : List α) : Value → Option α
  | .text s => all.find? fun a => word a = s
  | _ => none

namespace Comparison

/-- The word for a comparison. -/
def word : Comparison → String
  | eq => "eq"
  | ne => "ne"
  | gt => "gt"
  | lt => "lt"
  | ge => "ge"
  | le => "le"

/-- All comparisons. -/
def all : List Comparison := [eq, ne, gt, lt, ge, le]

/-- The comparison that a value names. -/
def ofValue? : Value → Option Comparison := wordOf? word all

/-- The form inside quoted values. -/
def shown : Comparison → String
  | eq => shownWord "Comparison" "EQ" "eq"
  | ne => shownWord "Comparison" "NE" "ne"
  | gt => shownWord "Comparison" "GT" "gt"
  | lt => shownWord "Comparison" "LT" "lt"
  | ge => shownWord "Comparison" "GE" "ge"
  | le => shownWord "Comparison" "LE" "le"

end Comparison

namespace Combiner

/-- The word for a combiner. -/
def word : Combiner → String
  | and => "and"
  | or => "or"

/-- All combiners. -/
def all : List Combiner := [and, or]

/-- The combiner that a value names. -/
def ofValue? : Value → Option Combiner := wordOf? word all

/-- The form inside quoted values. -/
def shown : Combiner → String
  | and => shownWord "Combiner" "AND" "and"
  | or => shownWord "Combiner" "OR" "or"

/-- The operator sign for a combiner. -/
def sign : Combiner → String
  | and => "&"
  | or => "|"

end Combiner

namespace Direction

/-- The word for a direction. -/
def word : Direction → String
  | ascending => "asc"
  | descending => "desc"

/-- All directions. -/
def all : List Direction := [ascending, descending]

/-- The direction that a value names. -/
def ofValue? : Value → Option Direction := wordOf? word all

/-- The form inside quoted values. -/
def shown : Direction → String
  | ascending => shownWord "Direction" "ASCENDING" "asc"
  | descending => shownWord "Direction" "DESCENDING" "desc"

end Direction

end IndexSearch
