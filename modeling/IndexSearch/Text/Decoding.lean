import IndexSearch.Text.Quoted

namespace IndexSearch.Text

/-!
# Decoding bytes

Texts arrive as bytes in one of five encodings. `decode` reads all of them or says which bytes stand
in the way and why.

Units of two or four bytes that encode a lone surrogate are let through, and in the one-byte
encoding where the caller asks for it; they become the replacement character, since a text holds
scalar values only.

* `Utf8.encode` — the bytes of a text;
* `decode` — the text of bytes in a given encoding;
* `DecodeError.message` — the wording of what went wrong.
-/

/-- The encodings that texts arrive in. -/
inductive Encoding where
  /-- One to four bytes a character. -/
  | utf8
  /-- Two or four bytes a character, the byte of the higher half first or last. -/
  | utf16 (bigEndian : Bool)
  /-- Four bytes a character. -/
  | utf32 (bigEndian : Bool)
deriving DecidableEq

/-- The name of an encoding. -/
def Encoding.name : Encoding → String
  | utf8 => "utf-8"
  | utf16 true => "utf-16-be"
  | utf16 false => "utf-16-le"
  | utf32 true => "utf-32-be"
  | utf32 false => "utf-32-le"

/-- Why bytes do not stand for a character. -/
inductive DecodeFault where
  /-- No character begins with this byte. -/
  | invalidStart
  /-- A byte does not continue the character begun. -/
  | invalidContinuation
  /-- The bytes end within a character. -/
  | unexpectedEnd
  /-- The bytes end within a unit of the encoding. -/
  | truncated
  /-- The number is no code point. -/
  | outOfRange
deriving DecidableEq

/-- The wording of a fault. -/
def DecodeFault.message : DecodeFault → String
  | invalidStart => "invalid start byte"
  | invalidContinuation => "invalid continuation byte"
  | unexpectedEnd => "unexpected end of data"
  | truncated => "truncated data"
  | outOfRange => "code point not in range(0x110000)"

/-- The bytes that could not be decoded. -/
structure DecodeError where
  /-- The encoding that was assumed. -/
  encoding : Encoding
  /-- The position of the first offending byte. -/
  position : Nat
  /-- The offending bytes. -/
  offending : List UInt8
  /-- What is wrong with them. -/
  fault : DecodeFault
deriving DecidableEq

/-- The wording of a decoding error: a single byte is shown, several are counted. -/
def DecodeError.message (e : DecodeError) : String :=
  let what := match e.offending with
    | [b] =>
      "byte 0x" ++ String.ofList (hexDigits 2 b.toNat) ++ " in position " ++ toString e.position
    | bs => "bytes in position " ++ toString e.position ++ "-"
        ++ toString (e.position + bs.length - 1)
  "'" ++ e.encoding.name ++ "' codec can't decode " ++ what ++ ": " ++ e.fault.message

/-- The character that stands for a surrogate code point. -/
def replacement : Char := '\uFFFD'

/-- Whether the number is a surrogate code point. -/
def isSurrogate (n : Nat) : Bool := 0xD800 ≤ n && n ≤ 0xDFFF

/-- One step of decoding: a character with the number of bytes it takes, or the number of offending
    bytes with their fault. -/
abbrev DecodeStep := Except (Nat × DecodeFault) (Char × Nat)

namespace Utf8

/-- The bytes of a text. -/
def encode (cs : List Char) : List UInt8 := cs.flatMap String.utf8EncodeChar

/-- Whether the byte may follow the first one of a character. -/
def isContinuation (b : UInt8) : Bool := 0x80 ≤ b && b < 0xC0

/-- Whether `b` may be the second byte of a character that begins with `lead`: some second bytes
    would make an overlong form, a surrogate or a number beyond the last code point. -/
def isSecond (lead b : UInt8) : Bool :=
  isContinuation b && !(lead == 0xE0 && b < 0xA0) && !(lead == 0xED && 0xA0 ≤ b)
    && !(lead == 0xF0 && b < 0x90) && !(lead == 0xF4 && 0x90 ≤ b)

/-- The number of bytes of a character that begins with `lead`, if one does. -/
def width? (lead : UInt8) : Option Nat :=
  if lead < 0x80 then some 1
  else if lead < 0xC2 then none
  else if lead < 0xE0 then some 2
  else if lead < 0xF0 then some 3
  else if lead < 0xF5 then some 4
  else none

/-- The payload of a first byte in a character of the given width, with that of the others. -/
def codePoint (width : Nat) (lead : UInt8) (more : List UInt8) : Nat :=
  let head := if width = 1 then lead.toNat else lead.toNat % Nat.pow 2 (7 - width)
  more.foldl (fun n b => 64 * n + b.toNat % 64) head

/-- How many of the bytes after `lead` are as they must be, out of at most `count`. -/
def goodCount (lead : UInt8) (count : Nat) (more : List UInt8) : Nat :=
  match more with
  | [] => 0
  | b :: r =>
    if isSecond lead b then 1 + ((r.take (count - 1)).takeWhile isContinuation).length else 0

/-- Reads the character that begins with `lead`. -/
def step (surrogates : Bool) (lead : UInt8) (more : List UInt8) : DecodeStep :=
  match width? lead with
  | none => .error (1, .invalidStart)
  | some width =>
    let rest := more.take (width - 1)
    let good := if width = 1 then 0 else goodCount lead (width - 1) rest
    if good = width - 1 then .ok (Char.ofNat (codePoint width lead rest), width)
    else if surrogates && lead == 0xED && rest.length == 2 && rest.all isContinuation then
      .ok (replacement, width)
    else if good = rest.length then .error (1 + rest.length, .unexpectedEnd)
    else .error (1 + good, .invalidContinuation)

end Utf8

/-- The number that bytes denote, the most significant one first. -/
def ofBigEndian (bs : List UInt8) : Nat := bs.foldl (fun n b => 256 * n + b.toNat) 0

/-- The number of a unit of several bytes. -/
def unitOf (bigEndian : Bool) (bs : List UInt8) : Nat :=
  ofBigEndian (if bigEndian then bs else bs.reverse)

namespace Utf16

/-- The code unit that follows, if the bytes hold a whole one. -/
def unit? (bigEndian : Bool) : List UInt8 → Option Nat
  | b₁ :: b₂ :: _ => some (unitOf bigEndian [b₁, b₂])
  | _ => none

/-- Reads the character at the beginning of bytes that are not empty. -/
def step (bigEndian : Bool) : List UInt8 → DecodeStep
  | b₁ :: b₂ :: r =>
    let u := unitOf bigEndian [b₁, b₂]
    if !isSurrogate u then .ok (Char.ofNat u, 2)
    else match unit? bigEndian r with
      | some v =>
        if u < 0xDC00 && 0xDC00 ≤ v && v ≤ 0xDFFF then
          .ok (Char.ofNat (0x10000 + (u - 0xD800) * 0x400 + (v - 0xDC00)), 4)
        else .ok (replacement, 2)
      | none => .ok (replacement, 2)
  | bs => .error (bs.length, .truncated)

end Utf16

namespace Utf32

/-- Reads the character at the beginning of bytes that are not empty. -/
def step (bigEndian : Bool) : List UInt8 → DecodeStep
  | b₁ :: b₂ :: b₃ :: b₄ :: _ =>
    let n := unitOf bigEndian [b₁, b₂, b₃, b₄]
    if isSurrogate n then .ok (replacement, 4)
    else if n < 0x110000 then .ok (Char.ofNat n, 4)
    else .error (4, .outOfRange)
  | bs => .error (bs.length, .truncated)

end Utf32

/-- Reads the character at the beginning of bytes that are not empty. -/
def Encoding.step (surrogates : Bool) (encoding : Encoding) (b : UInt8) (r : List UInt8) :
    DecodeStep :=
  match encoding with
  | .utf8 => Utf8.step surrogates b r
  | .utf16 bigEndian => Utf16.step bigEndian (b :: r)
  | .utf32 bigEndian => Utf32.step bigEndian (b :: r)

/-- Reads all bytes; `position` counts those before them. -/
def decodeFrom (surrogates : Bool) (encoding : Encoding) (position : Nat) :
    List UInt8 → Except DecodeError (List Char)
  | [] => .ok []
  | b :: r =>
    match encoding.step surrogates b r with
    | .error (n, fault) => .error ⟨encoding, position, (b :: r).take n, fault⟩
    | .ok (c, n) =>
      (decodeFrom surrogates encoding (position + n) (r.drop (n - 1))).map (c :: ·)
termination_by bs => bs.length

/-- The text of bytes in a given encoding, or the first bytes that have none. -/
def decode (surrogates : Bool) (encoding : Encoding) (bs : List UInt8) :
    Except DecodeError (List Char) :=
  decodeFrom surrogates encoding 0 bs

/-- The text of bytes in UTF-8, if they are valid. -/
def decodeUtf8? (bs : List UInt8) : Option String :=
  (decode false .utf8 bs).toOption.map String.ofList

end IndexSearch.Text
