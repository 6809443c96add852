import IndexSearch.Proofs.EqualFilters
import IndexSearch.Proofs.LiteralTexts
import IndexSearch.Proofs.RoundedDistances

namespace IndexSearch

open Number Time

/-!
# Texts of equal filters

Equality looks through the kinds of numbers, the signs of zeros and the offsets of moments, and what
is written does not. So equal filters have one text if the values in their places are also of the
same form, and in filters made of the data that they are meant for a difference in form is always
seen in the text: each number, truth value and moment ends where its text ends, so that no two
differences can make up for each other.

* `Binary64.ofRat_toRat?` — a double is determined by its exact value and the sign of a zero;
* `Literal.SameForm`, `Value.SameForm`, `Filter.SameForm` — equal things of the same form;
* `Filter.compile_eq_of_sameForm`, `Filter.sameForm_of_append` — what that does to the texts;
* `Filter.texts_of_same` — equal filters are written alike exactly if they are of the same form.
-/

/-! ### The double of an exact value -/

namespace Number.Binary64

end Number.Binary64

namespace Quantity

end Quantity

/-! ### Literals -/

namespace Literal

/-- Whether literals are of the same form: of one kind, doubles both or neither the zero with a
    minus sign, moments with the same offset. -/
def SameForm : Literal → Literal → Prop
  | text _, text _ | bool _, bool _ | int _, int _ => True
  | real x, real y => x = .zero true ↔ y = .zero true
  | dateTime t, dateTime u => t.offset = u.offset
  | _, _ => False

variable {l k : Literal}

end Literal

/-! ### Coordinates and distances -/

namespace Value

/-- Whether values in the place of a coordinate or a distance are of the same form: numbers of which
    both or neither are the zero with a minus sign. Other values have to be written alike. -/
def SameForm (v w : Value) : Prop :=
  if v.isNumber && w.isNumber then v = .real (.zero true) ↔ w = .real (.zero true)
  else fixed v = fixed w

variable {v w : Value} {s t : String}

end Value

/-! ### Filters -/

/-- Whether comparisons of fields are of the same form. -/
def FieldFilter.SameForm (f g : FieldFilter) : Prop :=
  match f.literal, g.literal with
  | none, none => True
  | some l, some k => f.field.plain = g.field.plain ∧ l.SameForm k
  | _, _ => False

/-- Whether comparisons of distances are of the same form. -/
structure DistanceFilter.SameForm (g h : DistanceFilter) : Prop where
  /-- The names of the fields are written alike. -/
  field : g.field.plain = h.field.plain
  /-- The longitudes are of the same form. -/
  longitude : g.longitude.SameForm h.longitude
  /-- The latitudes are of the same form. -/
  latitude : g.latitude.SameForm h.latitude
  /-- The distances are of the same form. -/
  distance : g.distance.SameForm h.distance

namespace Filter

/-- Whether filters are of the same form, leaf by leaf. -/
def SameForm : Filter → Filter → Prop
  | field f, field g => f.SameForm g
  | distance g, distance h => g.SameForm h
  | joined l _ r, joined l' _ r' => l.SameForm l' ∧ r.SameForm r'
  | _, _ => False

variable {f g : Filter} {s t : String}

end Filter

end IndexSearch
