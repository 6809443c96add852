import IndexSearch.Json.Basic
import IndexSearch.Number.Limit
import IndexSearch.Number.Numeral
import IndexSearch.Text.Decoding

namespace IndexSearch

open Number Text

/-!
# Reading JSON

`Json.read` reads a text that holds one value and nothing else but blanks. `NaN`, `Infinity` and
`-Infinity` are numbers, a name that occurs twice in an object keeps its last value, and an escaped
surrogate that stands alone becomes the replacement character. A text that holds no value is refused
with the first fault and its place. So is one with a whole number that is too long: the functions that
read take what whole numbers they are to read, which is all of them only for the sake of comparison.

`Json.ofBytes` reads bytes, whose encoding shows in a byte order mark or in the zeros among the
first four of them.
-/

namespace Json

/-- Why a text is no JSON. -/
inductive Fault where
  /-- A value should begin here. -/
  | value
  /-- The name of a field should begin here. -/
  | name
  /-- A colon should stand here. -/
  | colon
  /-- A comma or the end of the list or object should stand here. -/
  | comma
  /-- Something follows the value. -/
  | extra
  /-- The text that begins here has no end. -/
  | unterminated
  /-- A control character stands in a text. -/
  | control
  /-- No escape begins with this character. -/
  | escape
  /-- The escape lacks its four hexadecimal digits. -/
  | unicodeEscape
  /-- The text begins with a byte order mark. -/
  | mark
  /-- The whole number that begins here has too many digits. -/
  | digits (count : Nat)
deriving DecidableEq

/-- The wording of a fault. -/
def Fault.message : Fault → String
  | value => "Expecting value"
  | name => "Expecting property name enclosed in double quotes"
  | colon => "Expecting ':' delimiter"
  | comma => "Expecting ',' delimiter"
  | extra => "Extra data"
  | unterminated => "Unterminated string starting at"
  | control => "Invalid control character at"
  | escape => "Invalid \\escape"
  | unicodeEscape => "Invalid \\uXXXX escape"
  | mark => "Unexpected UTF-8 BOM (decode using utf-8-sig)"
  | digits count => tooLongMessage (": value has " ++ toString count ++ " digits")

/-- A fault at a place, given by the number of characters from there to the end. -/
structure Refusal where
  /-- What is wrong. -/
  fault : Fault
  /-- How many characters are left at the place of the fault. -/
  left : Nat
deriving DecidableEq

/-- The result of reading from the front of a text: what was read, with the rest. -/
abbrev Read (α : Type) := Except Refusal (α × List Char)

/-- Refuses the text at the given rest. -/
def refuse {α : Type} (fault : Fault) (rest : List Char) : Except Refusal α :=
  .error ⟨fault, rest.length⟩

/-- Whether the character may stand between values. -/
def isSpace (c : Char) : Bool := c = ' ' || c = '\t' || c = '\n' || c = '\r'

/-- The text without the blanks at its beginning. -/
def skip (cs : List Char) : List Char := cs.dropWhile isSpace

/-! ### Texts -/

/-- A piece of a text: a character, or a code unit given by an escape. -/
inductive Piece where
  /-- A character that stands for itself or has an escape of one letter. -/
  | char (c : Char)
  /-- A code unit. -/
  | unit (n : Nat)
deriving DecidableEq

/-- The characters of pieces: two units that form a pair are one character, and a surrogate without
    its partner becomes the replacement character. -/
def joinPieces : List Piece → List Char
  | [] => []
  | .char c :: r => c :: joinPieces r
  | .unit m :: .unit n :: r =>
    if 0xD800 ≤ m && m < 0xDC00 && 0xDC00 ≤ n && n < 0xE000 then
      Char.ofNat (0x10000 + (m - 0xD800) * 0x400 + (n - 0xDC00)) :: joinPieces r
    else
      (if isSurrogate m then replacement else Char.ofNat m) :: joinPieces (.unit n :: r)
  | .unit m :: r => (if isSurrogate m then replacement else Char.ofNat m) :: joinPieces r

/-- The value of a hexadecimal digit. -/
def hexValue? (c : Char) : Option Nat :=
  if c.isDigit then some (c.toNat - '0'.toNat)
  else if 'a' ≤ c && c ≤ 'f' then some (c.toNat - 'a'.toNat + 10)
  else if 'A' ≤ c && c ≤ 'F' then some (c.toNat - 'A'.toNat + 10)
  else none

/-- The value of four hexadecimal digits. -/
def hexUnit? (a b c d : Char) : Option Nat := do
  let w ← hexValue? a
  let x ← hexValue? b
  let y ← hexValue? c
  let z ← hexValue? d
  return ((w * 16 + x) * 16 + y) * 16 + z

/-- The character that an escape of one letter stands for. -/
def letterEscape? (c : Char) : Option Char :=
  match c with
  | '"' => some '"'
  | '\\' => some '\\'
  | '/' => some '/'
  | 'b' => some '\x08'
  | 'f' => some '\x0c'
  | 'n' => some '\n'
  | 'r' => some '\r'
  | 't' => some '\t'
  | _ => none

/-- Reads the pieces of a text up to its closing quote; `start` characters were left before the
    opening one. An escape by digits has to be followed by something. -/
def pieces (start : Nat) : List Char → Read (List Piece)
  | [] => .error ⟨.unterminated, start⟩
  | '"' :: r => .ok ([], r)
  | '\\' :: 'u' :: a :: b :: c :: d :: r =>
    if r.isEmpty then refuse .unicodeEscape ('u' :: a :: b :: c :: d :: r)
    else match hexUnit? a b c d with
      | none => refuse .unicodeEscape ('u' :: a :: b :: c :: d :: r)
      | some n => (pieces start r).map fun (ps, rest) => (.unit n :: ps, rest)
  | '\\' :: 'u' :: r => refuse .unicodeEscape ('u' :: r)
  | '\\' :: c :: r =>
    match letterEscape? c with
    | none => refuse .escape ('\\' :: c :: r)
    | some e => (pieces start r).map fun (ps, rest) => (.char e :: ps, rest)
  | ['\\'] => .error ⟨.unterminated, start⟩
  | c :: r =>
    if c.toNat < 0x20 then refuse .control (c :: r)
    else (pieces start r).map fun (ps, rest) => (.char c :: ps, rest)

/-- Reads a text whose opening quote has been passed. -/
def readText (cs : List Char) : Read String :=
  (pieces (cs.length + 1) cs).map fun (ps, rest) => (String.ofList (joinPieces ps), rest)

/-! ### Numbers and words -/

/-- Splits off the digits before the point: one zero, or digits that begin with none. -/
def wholeDigits : List Char → List Char × List Char
  | '0' :: r => (['0'], r)
  | cs => (cs.takeWhile Char.isDigit, cs.dropWhile Char.isDigit)

/-- Splits off a point with the digits after it, if there is at least one. -/
def fractionDigits (cs : List Char) : List Char × List Char :=
  match cs with
  | '.' :: r =>
    let ds := r.takeWhile Char.isDigit
    if ds.isEmpty then ([], cs) else ('.' :: ds, r.dropWhile Char.isDigit)
  | _ => ([], cs)

/-- Splits off an exponent with at least one digit. -/
def exponentDigits (cs : List Char) : List Char × List Char :=
  match cs with
  | e :: r =>
    let (sign, t) := match r with
      | '-' :: t => (['-'], t)
      | '+' :: t => (['+'], t)
      | _ => ([], r)
    let ds := t.takeWhile Char.isDigit
    if (e = 'e' || e = 'E') && !ds.isEmpty then (e :: sign ++ ds, t.dropWhile Char.isDigit)
    else ([], cs)
  | [] => ([], [])

/-- Reads a number: whole unless it has a fraction or an exponent. -/
def number? (cs : List Char) : Option (Json × List Char) :=
  let (negative, body) := match cs with
    | '-' :: r => (true, r)
    | _ => (false, cs)
  let (whole, r₁) := wholeDigits body
  if whole.isEmpty then none
  else
    let (fraction, r₂) := fractionDigits r₁
    let (exponent, r₃) := exponentDigits r₂
    if fraction.isEmpty && exponent.isEmpty then
      let n : Int := ofDigits whole
      some (int (if negative then -n else n), r₃)
    else
      let sign := if negative then ['-'] else []
      (Numeral.ofChars? (sign ++ whole ++ fraction ++ exponent)).map fun n =>
        (real n.toBinary64, r₃)

/-- The words that are values. -/
def words : List (String × Json) :=
  [("null", null), ("true", bool true), ("false", bool false), ("NaN", real .nan),
    ("Infinity", real (.infinite false)), ("-Infinity", real (.infinite true))]

/-- Reads a word that is a value. -/
def word? (cs : List Char) : Option (Json × List Char) :=
  words.findSome? fun (w, j) => (w.toList.isPrefixOf? cs).map fun rest => (j, rest)

/-- Reads a value that is neither a text nor a list nor an object. A whole number has to fit. -/
def readScalar (fits : Int → Bool) (cs : List Char) : Read Json :=
  match word? cs with
  | some x => .ok x
  | none =>
    match number? cs with
    | some (int n, rest) =>
      if fits n then .ok (int n, rest) else refuse (.digits (digitCount n.natAbs)) cs
    | some x => .ok x
    | none => refuse .value cs

/-! ### Values -/

section

variable (fits : Int → Bool)

mutual

/-- Reads a value at the front of a text. -/
def readValue : Nat → List Char → Except Refusal (Json × List Char)
  | 0, cs => refuse .value cs
  | fuel + 1, cs =>
    match cs with
    | '"' :: r => (readText r).map fun (s, rest) => (text s, rest)
    | '[' :: r =>
      match skip r with
      | ']' :: rest => .ok (array [], rest)
      | rest => (readItems fuel rest).map fun (items, rest) => (array items, rest)
    | '\x7b' :: r =>
      match skip r with
      | '\x7d' :: rest => .ok (object [], rest)
      | rest => (readFields fuel rest).map fun (fields, rest) =>
          (object (distinctFields fields), rest)
    | cs => readScalar fits cs

/-- Reads the values of a list up to its end. -/
def readItems : Nat → List Char → Except Refusal (List Json × List Char)
  | 0, cs => refuse .value cs
  | fuel + 1, cs => do
    let (j, rest) ← readValue fuel cs
    match skip rest with
    | ']' :: rest => .ok ([j], rest)
    | ',' :: rest => do
      let (items, rest) ← readItems fuel (skip rest)
      return (j :: items, rest)
    | rest => refuse .comma rest

/-- Reads the fields of an object up to its end. -/
def readFields : Nat → List Char → Except Refusal (List (String × Json) × List Char)
  | 0, cs => refuse .name cs
  | fuel + 1, cs =>
    match cs with
    | '"' :: r => do
      let (k, rest) ← readText r
      match skip rest with
      | ':' :: rest => do
        let (v, rest) ← readValue fuel (skip rest)
        match skip rest with
        | '\x7d' :: rest => .ok ([(k, v)], rest)
        | ',' :: rest => do
          let (fields, rest) ← readFields fuel (skip rest)
          return ((k, v) :: fields, rest)
        | rest => refuse .comma rest
      | rest => refuse .colon rest
    | cs => refuse .name cs

end

/-- Reads a text that holds one value between blanks. Each step passes a character or goes one level
    down, so twice the length of the text is enough steps. -/
def readChars (cs : List Char) : Except Refusal Json := do
  let (j, rest) ← readValue fits (2 * cs.length + 2) (skip cs)
  match skip rest with
  | [] => .ok j
  | rest => refuse .extra rest

end

/-- A fault at a place in a text. -/
structure SyntaxError where
  /-- What is wrong. -/
  fault : Fault
  /-- The line of the place, from 1. -/
  line : Nat
  /-- The column of the place, from 1. -/
  column : Nat
  /-- The number of characters before the place. -/
  position : Nat
deriving DecidableEq

/-- The wording of a fault with its place; a whole number that is too long is reported without. -/
def SyntaxError.message (e : SyntaxError) : String :=
  match e.fault with
  | .digits _ => e.fault.message
  | _ =>
    e.fault.message ++ ": line " ++ toString e.line ++ " column " ++ toString e.column ++ " (char "
      ++ toString e.position ++ ")"

/-- The place of a refusal in the text that was refused. -/
def Refusal.locate (cs : List Char) (r : Refusal) : SyntaxError :=
  let before := cs.take (cs.length - r.left)
  { fault := r.fault
    line := before.count '\n' + 1
    column := (before.reverse.takeWhile (· ≠ '\n')).length + 1
    position := before.length }

/-- Reads the characters of a text. -/
def ofChars (cs : List Char) : Except SyntaxError Json :=
  (readChars isShort cs).mapError (Refusal.locate cs)

/-- Reads a text, which must not begin with a byte order mark. -/
def read (s : String) : Except SyntaxError Json :=
  match s.toList with
  | '\uFEFF' :: r => .error (Refusal.locate ('\uFEFF' :: r) ⟨.mark, r.length + 1⟩)
  | cs => ofChars cs

/-! ### Bytes -/

/-- The encoding of bytes and the length of the byte order mark before them. -/
def detect (bs : List UInt8) : Encoding × Nat :=
  match bs with
  | 0 :: 0 :: 0xFE :: 0xFF :: _ => (.utf32 true, 4)
  | 0xFF :: 0xFE :: 0 :: 0 :: _ => (.utf32 false, 4)
  | 0xFE :: 0xFF :: _ => (.utf16 true, 2)
  | 0xFF :: 0xFE :: _ => (.utf16 false, 2)
  | 0xEF :: 0xBB :: 0xBF :: _ => (.utf8, 3)
  | a :: b :: c :: d :: _ =>
    if a == 0 then (if b == 0 then .utf32 true else .utf16 true, 0)
    else if b == 0 then (if c == 0 && d == 0 then .utf32 false else .utf16 false, 0)
    else (.utf8, 0)
  | [a, b] =>
    if a == 0 then (.utf16 true, 0) else if b == 0 then (.utf16 false, 0) else (.utf8, 0)
  | _ => (.utf8, 0)

/-- Why bytes hold no JSON. -/
inductive BodyError where
  /-- They hold no text. -/
  | undecodable (e : DecodeError)
  /-- The text is no JSON. -/
  | malformed (e : SyntaxError)
deriving DecidableEq

/-- The wording of the error. -/
def BodyError.message : BodyError → String
  | undecodable e => e.message
  | malformed e => e.message

/-- Reads bytes. The positions of bytes that cannot be decoded are counted from the first byte,
    except that a mark of three bytes is not counted. -/
def ofBytes (bs : List UInt8) : Except BodyError Json :=
  let (encoding, mark) := detect bs
  let start := if encoding = .utf8 then 0 else mark
  match decodeFrom true encoding start (bs.drop mark) with
  | .error e => .error (.undecodable e)
  | .ok cs => (ofChars cs).mapError .malformed

end Json

end IndexSearch
