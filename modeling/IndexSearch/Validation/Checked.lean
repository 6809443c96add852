import IndexSearch.Value.Shown

namespace IndexSearch

/-!
# Checked data

Data from outside is checked against the form it should have. A check either succeeds or lists all
that is wrong, each `Issue` with the place of the offending part. Checks of several parts are
combined by `Checked.ap`, `Checked.all` and `Checked.both`, which collect the issues of all of them
in order.
-/

/-- Why a text is no URL. -/
inductive UrlFault where
  /-- The text is empty. -/
  | empty
  /-- The URL has no scheme. -/
  | schemeless
  /-- There is no host where there should be one. -/
  | hostless
  /-- The URL has no place for a host. -/
  | pathOnly
  /-- A character of the host is none that a host may hold. -/
  | hostCharacter
  /-- The brackets hold no address. -/
  | groups
  /-- The port is no number or too large. -/
  | port
deriving DecidableEq

/-- The wording of the fault. -/
def UrlFault.message : UrlFault → String
  | empty => "input is empty"
  | schemeless => "relative URL without a base"
  | hostless => "empty host"
  | pathOnly => "a cannot-be-a-base URL doesn’t have a host to set"
  | hostCharacter => "invalid domain character"
  | groups => "invalid IPv6 address"
  | port => "invalid port number"

/-- What is wrong with a value at its place. -/
inductive Fault where
  /-- The value is no text. -/
  | notText
  /-- The bytes are no text. -/
  | notUnicode
  /-- The value is no whole number. -/
  | notInt
  /-- The text is no whole number. -/
  | intText
  /-- The number has a fraction. -/
  | fraction
  /-- The number is not finite. -/
  | notFinite
  /-- The whole number is too large to be read from where it stands. -/
  | intSize
  /-- The number is below the least one allowed. -/
  | below (least : Nat)
  /-- The number is not above zero. -/
  | notPositive
  /-- The value is no number. -/
  | notNumber
  /-- The text is no number. -/
  | numberText
  /-- The value is no truth value. -/
  | notBool
  /-- The text or number is no truth value. -/
  | boolText
  /-- The value is no list. -/
  | notList
  /-- The value is no list of fixed length. -/
  | notTuple
  /-- The value is no mapping. -/
  | notMapping
  /-- The value is no mapping, from which a thing of the given name could be made. -/
  | notModel (name : String)
  /-- The part is missing. -/
  | missing
  /-- There should be no such part. -/
  | unexpected
  /-- The value is no text that could be a URL. -/
  | notUrl
  /-- The text is no URL. -/
  | urlText (reason : UrlFault)
  /-- The scheme of the URL is none of the key-value store's. -/
  | urlScheme
deriving DecidableEq

namespace Fault

/-- The wording of a fault and its code. -/
def wording : Fault → String × String
  | notText => ("Input should be a valid string", "string_type")
  | notUnicode =>
    ("Input should be a valid string, unable to parse raw data as a unicode string",
      "string_unicode")
  | notInt => ("Input should be a valid integer", "int_type")
  | intText =>
    ("Input should be a valid integer, unable to parse string as an integer", "int_parsing")
  | fraction =>
    ("Input should be a valid integer, got a number with a fractional part", "int_from_float")
  | notFinite => ("Input should be a finite number", "finite_number")
  | intSize =>
    ("Unable to parse input string as an integer, exceeded maximum size", "int_parsing_size")
  | below least =>
    ("Input should be greater than or equal to " ++ toString least, "greater_than_equal")
  | notPositive => ("Input should be greater than 0", "greater_than")
  | notNumber => ("Input should be a valid number", "float_type")
  | numberText =>
    ("Input should be a valid number, unable to parse string as a number", "float_parsing")
  | notBool => ("Input should be a valid boolean", "bool_type")
  | boolText => ("Input should be a valid boolean, unable to interpret input", "bool_parsing")
  | notList => ("Input should be a valid list", "list_type")
  | notTuple => ("Input should be a valid tuple", "tuple_type")
  | notMapping => ("Input should be a valid dictionary", "dict_type")
  | notModel name => ("Input should be a valid dictionary or instance of " ++ name, "model_type")
  | missing => ("Field required", "missing")
  | unexpected => ("Extra inputs are not permitted", "extra_forbidden")
  | notUrl => ("URL input should be a string or URL", "url_type")
  | urlText reason => ("Input should be a valid URL, " ++ reason.message, "url_parsing")
  | urlScheme => ("URL scheme should be 'redis' or 'rediss'", "url_scheme")

end Fault

/-- A fault at a place, given by the names and indexes on the way to it. -/
structure Issue where
  /-- The way to the offending part. -/
  place : List String
  /-- What is wrong with it. -/
  fault : Fault
deriving DecidableEq

/-- The line for an issue: its place, its wording and its code. -/
def Issue.line (i : Issue) : String :=
  let (message, code) := i.fault.wording
  ".".intercalate i.place ++ ": " ++ message ++ " [" ++ code ++ "]"

/-- All that is wrong with a value, one line for each issue. -/
def issuesText (issues : List Issue) : String := "\n".intercalate (issues.map Issue.line)

/-- The result of a check. -/
abbrev Checked (α : Type) := Except (List Issue) α

namespace Checked

variable {α β γ : Type}

/-- Fails with one fault at the value itself. -/
def fault (f : Fault) : Checked α := .error [⟨[], f⟩]

/-- Combines two checks; the issues of the first come first. -/
def both (f : α → β → γ) : Checked α → Checked β → Checked γ
  | .ok a, .ok b => .ok (f a b)
  | .error is, .ok _ => .error is
  | .ok _, .error js => .error js
  | .error is, .error js => .error (is ++ js)

/-- Applies a checked function to a checked argument. -/
def ap (f : Checked (α → β)) (a : Checked α) : Checked β := both (fun g x => g x) f a

/-- Combines the checks of a list. -/
def all : List (Checked α) → Checked (List α)
  | [] => .ok []
  | a :: r => both (· :: ·) a (all r)

/-- Places the issues of a check below a part of the given name. -/
def within (part : String) (a : Checked α) : Checked α :=
  a.mapError fun is => is.map fun i => { i with place := part :: i.place }

/-- Checks each value of a list; the place of an element is its index. -/
def each (check : Value → Checked α) (xs : List Value) : Checked (List α) :=
  all (xs.zipIdx.map fun (x, i) => (check x).within (toString i))

/-- Lets null pass and checks any other value. -/
def nullable (check : Value → Checked α) (v : Value) : Checked (Option α) :=
  if v.isNull then .ok none else (check v).map some

/-! ### Parts of mappings -/

/-- The part of a mapping under the first of several names that occurs. -/
def part? (names : List String) (entries : List (Value × Value)) : Option (String × Value) :=
  names.findSome? fun n => (Value.field? n entries).map fun v => (n, v)

/-- Checks a part of a mapping; without the part the result is `absent`. -/
def optional (names : List String) (absent : α) (check : Value → Checked α)
    (entries : List (Value × Value)) : Checked α :=
  match part? names entries with
  | none => .ok absent
  | some (name, v) => (check v).within name

/-- Checks a part that a mapping must have. -/
def required (name : String) (check : Value → Checked α) (entries : List (Value × Value)) :
    Checked α :=
  match part? [name] entries with
  | none => .error [⟨[name], .missing⟩]
  | some (_, v) => (check v).within name

end Checked

end IndexSearch
