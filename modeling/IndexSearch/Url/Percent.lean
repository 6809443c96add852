import IndexSearch.Text.Decoding

namespace IndexSearch.Url

open Text

/-!
# Percent encoding

Characters that may not stand in a part of a URL are written as the bytes of their UTF-8 form, each
as `%` and two hexadecimal digits. Escapes that are there already are kept.

* `encodePart` — a part of a URL, given the characters that may stand in it;
* `encodeForm` — the name or value of a query parameter.
-/

/-- A hexadecimal digit, in upper case. -/
def hexDigit (n : Nat) : Char := (Nat.digitChar n).toUpper

/-- A byte as `%` and two hexadecimal digits. -/
def escapeByte (b : UInt8) : List Char := ['%', hexDigit (b.toNat / 16), hexDigit (b.toNat % 16)]

/-- The bytes of a character, each escaped. -/
def escapeChar (c : Char) : List Char := (String.utf8EncodeChar c).flatMap escapeByte

/-- Whether the character is a hexadecimal digit. -/
def isHex (c : Char) : Bool :=
  c.isDigit || ('a' ≤ c && c ≤ 'f') || ('A' ≤ c && c ≤ 'F')

/-- Letters, digits and the four signs that never need an escape. -/
def isUnreserved (c : Char) : Bool :=
  c.isAlphanum || c = '-' || c = '.' || c = '_' || c = '~'

/-- Escapes the characters that are not safe; an escape that is there already is kept. -/
def encodePart (safe : Char → Bool) : List Char → List Char
  | '%' :: a :: b :: r =>
    if isHex a && isHex b then '%' :: a :: b :: encodePart safe r
    else if safe '%' then '%' :: encodePart safe (a :: b :: r)
    else escapeChar '%' ++ encodePart safe (a :: b :: r)
  | c :: r => if safe c then c :: encodePart safe r else escapeChar c ++ encodePart safe r
  | [] => []

/-- Printable ASCII except the given characters. -/
def asciiExcept (excluded : List Char) (c : Char) : Bool :=
  0x20 ≤ c.toNat && c.toNat < 0x7F && !excluded.contains c

/-- The characters that may stand in a path. -/
def pathSafe : Char → Bool := asciiExcept [' ', '"', '#', '<', '>', '?', '\x60', '\x7b', '\x7d']

/-- The characters that may stand in a query. -/
def querySafe : Char → Bool := asciiExcept [' ', '"', '#', '<', '>']

/-- The characters that may stand in a fragment. -/
def fragmentSafe : Char → Bool := asciiExcept [' ', '"', '<', '>', '\x60']

/-- The characters that may stand in the user information. -/
def userSafe : Char → Bool :=
  asciiExcept [' ', '"', '#', '<', '>', '?', '\x60', '\x7b', '\x7d', '/', ';', '=', '@', '[', '\\',
    ']', '^', '|']

/-- The characters that may stand in a host name. -/
def hostSafe (c : Char) : Bool :=
  isUnreserved c || "!$&'()*+,;=\"\x60\x7b\x7d%|\\".toList.contains c

/-- The name or value of a query parameter: a blank becomes a plus sign, and all but the unreserved
    characters are escaped. -/
def encodeForm (cs : List Char) : List Char :=
  cs.flatMap fun c => if c = ' ' then ['+'] else if isUnreserved c then [c] else escapeChar c

/-- The value of a hexadecimal digit. -/
def hexValue (c : Char) : Nat :=
  if c.isDigit then c.toNat - '0'.toNat
  else if 'a' ≤ c && c ≤ 'f' then c.toNat - 'a'.toNat + 10
  else c.toNat - 'A'.toNat + 10

/-- The bytes that a part of a URL stands for: escapes are bytes, other characters their UTF-8
    form. -/
def decodePart : List Char → List UInt8
  | '%' :: a :: b :: r =>
    if isHex a && isHex b then UInt8.ofNat (16 * hexValue a + hexValue b) :: decodePart r
    else String.utf8EncodeChar '%' ++ decodePart (a :: b :: r)
  | c :: r => String.utf8EncodeChar c ++ decodePart r
  | [] => []

end IndexSearch.Url
