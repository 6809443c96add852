import IndexSearch.Text.Printable

namespace IndexSearch.Text

/-!
# Quoted texts

Error messages and the texts of nested values show a text between quotes. Single quotes are used
unless the text holds a single quote and no double one. Within them a backslash and the quote itself
are preceded by a backslash, three controls have letters of their own, and whatever else is not
printable is written by its code in hexadecimal digits.

* `quoted` — a text of characters;
* `quotedBytes` — a string of bytes, preceded by `b`, in which only ASCII is shown as it is.
-/

/-- The digits of `n` in base sixteen, preceded by as many zeros as make `width` characters. -/
def hexDigits (width n : Nat) : List Char := (Nat.toDigits 16 n).leftpad width '0'

/-- The quote that surrounds a text: double if it holds a single quote and no double one. -/
def quoteOf (cs : List Char) : Char :=
  if cs.contains '\x27' && !cs.contains '"' then '"' else '\x27'

/-- The form inside quotes of a character that has a short escape. -/
def shortEscape? (quote c : Char) : Option (List Char) :=
  if c = quote || c = '\\' then some ['\\', c]
  else if c = '\t' then some ['\\', 't']
  else if c = '\n' then some ['\\', 'n']
  else if c = '\r' then some ['\\', 'r']
  else none

/-- A character as it stands inside quotes. -/
def escapeChar (quote c : Char) : List Char :=
  match shortEscape? quote c with
  | some e => e
  | none =>
    if isPrintable c then [c]
    else if c.toNat < 0x100 then '\\' :: 'x' :: hexDigits 2 c.toNat
    else if c.toNat < 0x10000 then '\\' :: 'u' :: hexDigits 4 c.toNat
    else '\\' :: 'U' :: hexDigits 8 c.toNat

/-- A text between quotes. -/
def quoted (s : String) : String :=
  let cs := s.toList
  let quote := quoteOf cs
  String.ofList (quote :: cs.flatMap (escapeChar quote) ++ [quote])

/-- A byte as it stands inside quotes; `c` is the character with the code of the byte. -/
def escapeByte (quote c : Char) : List Char :=
  match shortEscape? quote c with
  | some e => e
  | none =>
    if 0x20 ≤ c.toNat && c.toNat < 0x7F then [c] else '\\' :: 'x' :: hexDigits 2 c.toNat

/-- A string of bytes between quotes. -/
def quotedBytes (bs : List UInt8) : String :=
  let cs := bs.map fun b => Char.ofNat b.toNat
  let quote := quoteOf cs
  String.ofList ('b' :: quote :: cs.flatMap (escapeByte quote) ++ [quote])

end IndexSearch.Text
