import IndexSearch.Json.Basic
import IndexSearch.Number.Shortest
import IndexSearch.Text.Quoted

namespace IndexSearch

open Number Text

/-!
# Writing JSON

`Json.write` writes a value on one line. The two styles in use differ in blanks and in the
characters they escape: `Json.spaced` has a blank after every comma and colon and escapes all but
printable ASCII, `Json.compact` has no blanks and escapes only what has to be. `Json.sorted` lists
the fields of all objects by name, so that objects with the same fields have the same text.
-/

namespace Json

/-- A way to write JSON. -/
structure Style where
  /-- What separates values. -/
  comma : String
  /-- What separates a name from its value. -/
  colon : String
  /-- Whether characters beyond printable ASCII are escaped. -/
  escapeAll : Bool

/-- A blank after commas and colons, and nothing but printable ASCII. -/
def spaced : Style := ⟨", ", ": ", true⟩

/-- No blanks, and all characters as they are. -/
def compact : Style := ⟨",", ":", false⟩

/-- The escape of a code unit by its four hexadecimal digits. -/
def unitEscape (n : Nat) : List Char := '\\' :: 'u' :: hexDigits 4 n

/-- The escape of a character by its code, as two units beyond the first 65536 characters. -/
def codeEscape (c : Char) : List Char :=
  let n := c.toNat
  if n < 0x10000 then unitEscape n
  else unitEscape (0xD800 + (n - 0x10000) / 0x400) ++ unitEscape (0xDC00 + (n - 0x10000) % 0x400)

/-- A character inside a text. -/
def escaped (style : Style) (c : Char) : List Char :=
  if c = '"' then ['\\', '"']
  else if c = '\\' then ['\\', '\\']
  else if c = '\n' then ['\\', 'n']
  else if c = '\r' then ['\\', 'r']
  else if c = '\t' then ['\\', 't']
  else if c.toNat = 0x08 then ['\\', 'b']
  else if c.toNat = 0x0C then ['\\', 'f']
  else if c.toNat < 0x20 || (style.escapeAll && 0x7F ≤ c.toNat) then codeEscape c
  else [c]

/-- A text between double quotes. -/
def quotedText (style : Style) (s : String) : List Char :=
  '"' :: s.toList.flatMap (escaped style) ++ ['"']

/-- The names of the doubles without digits. -/
def specialNames : SpecialNames := ⟨"NaN", "Infinity"⟩

mutual

/-- The characters of a value. -/
def chars (style : Style) : Json → List Char
  | null => "null".toList
  | bool b => if b then "true".toList else "false".toList
  | int n => (toString n).toList
  | real x => (x.text specialNames).toList
  | text s => quotedText style s
  | array items => '[' :: charsOfItems style items ++ [']']
  | object fields => '\x7b' :: charsOfFields style fields ++ ['\x7d']

/-- The characters of values with commas between them. -/
def charsOfItems (style : Style) : List Json → List Char
  | [] => []
  | [j] => chars style j
  | j :: r => chars style j ++ style.comma.toList ++ charsOfItems style r

/-- The characters of fields with commas between them. -/
def charsOfFields (style : Style) : List (String × Json) → List Char
  | [] => []
  | [(k, v)] => quotedText style k ++ style.colon.toList ++ chars style v
  | (k, v) :: r =>
    quotedText style k ++ style.colon.toList ++ chars style v ++ style.comma.toList
      ++ charsOfFields style r

end

/-- The text of a value. -/
def write (style : Style) (j : Json) : String := String.ofList (chars style j)

/-- Fields by name. -/
def sortFields {α : Type} (fields : List (String × α)) : List (String × α) :=
  fields.mergeSort fun f g => f.1 ≤ g.1

mutual

/-- The value with the fields of all objects by name. -/
def sorted : Json → Json
  | array items => array (sortedItems items)
  | object fields => object (sortFields (sortedFields fields))
  | j => j

/-- Each value with the fields of all objects by name. -/
def sortedItems : List Json → List Json
  | [] => []
  | j :: r => sorted j :: sortedItems r

/-- Each value under its name, with the fields of all objects within by name. -/
def sortedFields : List (String × Json) → List (String × Json)
  | [] => []
  | (k, v) :: r => (k, sorted v) :: sortedFields r

end

end Json

end IndexSearch
