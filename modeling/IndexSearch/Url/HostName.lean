import IndexSearch.Text.Letters
import IndexSearch.Text.Quoted
import IndexSearch.Text.Segments
import IndexSearch.Url.Percent

namespace IndexSearch.Url

open Text

/-!
# Host names

A host is named by an address of four or of eight numbers, or by labels with points between them.
Labels of other than ASCII characters are written in Punycode, as `xn--` and a text of letters and
digits.

* `encodeHost` — the host as it stands in a URL, or why it can not.
-/

/-! ### Addresses -/

/-- Whether the text is a number from 0 to 255 without needless zeros. -/
def isOctet (cs : List Char) : Bool :=
  !cs.isEmpty && cs.all Char.isDigit && cs.length ≤ 3 && (cs.length = 1 || cs.head? != some '0')
    && cs.foldl (fun n c => 10 * n + (c.toNat - 48)) 0 ≤ 255

/-- Whether the text is an address of four numbers. -/
def isFourPartAddress (cs : List Char) : Bool :=
  let parts := segments '.' cs
  parts.length = 4 && parts.all isOctet

/-- Whether the text is four numbers of any size with points between them. -/
def looksLikeFourParts (cs : List Char) : Bool :=
  let parts := segments '.' cs
  parts.length = 4 && parts.all fun p => !p.isEmpty && p.all Char.isDigit

/-- Whether the text is one of the eight numbers of an address. -/
def isGroup (cs : List Char) : Bool := 1 ≤ cs.length && cs.length ≤ 4 && cs.all isHex

/-- The number of groups that a piece of an address stands for, if it is one; an address of four
    numbers at the end stands for two. -/
def groupCount? (parts : List (List Char)) : Option Nat :=
  match parts with
  | [] => some 0
  | [p] => if isGroup p then some 1 else if isFourPartAddress p then some 2 else none
  | p :: r => if isGroup p then (groupCount? r).map (· + 1) else none

/-- Whether the text is an address of eight numbers, of which a run of zeros may be left out. -/
def isEightPartAddress (cs : List Char) : Bool :=
  let parts := segments ':' (cs.takeWhile (· ≠ '%'))
  let front := parts.takeWhile fun p => !p.isEmpty
  let back := (parts.reverse.takeWhile fun p => !p.isEmpty).reverse
  if front.length = parts.length then groupCount? parts = some 8
  else
    let gap := (parts.drop front.length).take (parts.length - front.length - back.length)
    let needed := 1 + (if front.isEmpty then 1 else 0) + (if back.isEmpty then 1 else 0)
    gap.length = needed && gap.all List.isEmpty && front.all isGroup
      && match groupCount? back with
        | some n => front.length + n ≤ 7
        | none => false

/-! ### Punycode -/

/-- The digit for a number below 36. -/
def punyDigit (d : Nat) : Char := Char.ofNat (if d < 26 then 0x61 + d else 0x30 + d - 26)

/-- Divides the delta by 35 until it is small, counting in steps of 36. -/
def shrink (delta k : Nat) : Nat × Nat :=
  if 455 < delta then shrink (delta / 35) (k + 36) else (delta, k)
termination_by delta
decreasing_by exact Nat.div_lt_self (by omega) (by omega)

/-- The bias after a delta has been written. -/
def adapt (delta count : Nat) (first : Bool) : Nat :=
  let d := if first then delta / 700 else delta / 2
  let (d, k) := shrink (d + d / count) 0
  k + 36 * d / (d + 38)

/-- The least digit that ends a number at the given place. -/
def threshold (k bias : Nat) : Nat := min 26 (max 1 (k - bias))

/-- The digits of a delta, with more significant digits behind. -/
def deltaDigits (q k bias : Nat) : List Char :=
  if h : threshold k bias ≤ q ∧ 1 ≤ threshold k bias then
    punyDigit (threshold k bias + (q - threshold k bias) % (36 - threshold k bias))
      :: deltaDigits ((q - threshold k bias) / (36 - threshold k bias)) (k + 36) bias
  else [punyDigit q]
termination_by q
decreasing_by
  exact Nat.lt_of_le_of_lt (Nat.div_le_self _ _) (by omega)

/-- What is known between two characters: the last one written, the distance from it, the bias, and
    how many characters are done. -/
structure PunyState where
  /-- The least code point that may still come. -/
  next : Nat
  /-- The distance covered since the last character written. -/
  delta : Nat
  /-- The bias. -/
  bias : Nat
  /-- The number of characters done. -/
  done : Nat
  /-- The digits written. -/
  digits : List Char

/-- Goes through the label once for the code point `m`. -/
def punyPass (basic m : Nat) (s : PunyState) (label : List Nat) : PunyState :=
  label.foldl (fun s c =>
    if c < m then { s with delta := s.delta + 1 }
    else if c = m then
      { s with
        delta := 0
        bias := adapt s.delta (s.done + 1) (s.done = basic)
        done := s.done + 1
        digits := s.digits ++ deltaDigits s.delta 36 s.bias }
    else s) s

/-- The Punycode of a label. -/
def punycode (label : List Char) : List Char :=
  let basic := label.filter fun c => c.toNat < 0x80
  let points := label.map Char.toNat
  let others := ((points.filter (0x80 ≤ ·)).mergeSort (· ≤ ·)).eraseDups
  let start : PunyState := ⟨0x80, 0, 72, basic.length, []⟩
  let final := others.foldl (fun s m =>
    let s := { s with delta := s.delta + (m - s.next) * (s.done + 1) }
    let s := punyPass basic.length m s points
    { s with next := m + 1, delta := s.delta + 1 }) start
  (if basic.isEmpty then [] else basic ++ ['-']) ++ final.digits

/-- Whether the character may stand in a label: letters of the scripts below `U+2000` and the East
    Asian ones, and the lower-case letters, digits and hyphens of ASCII. -/
def isLabelChar (c : Char) : Bool :=
  let n := c.toNat
  if n < 0x80 then c.isLower || c.isDigit || c = '-'
  else (0xDF ≤ n && n < 0x2000 && n ≠ 0xF7) || (0x3005 ≤ n && n ≤ 0x3007)
    || (0x3041 ≤ n && n ≤ 0x30FF) || (0x3400 ≤ n && n ≤ 0x4DBF) || (0x4E00 ≤ n && n ≤ 0x9FFF)
    || (0xAC00 ≤ n && n ≤ 0xD7A3)

/-- A label as it is written in ASCII, if it can be. -/
def asciiLabel? (label : List Char) : Option (List Char) :=
  if label.all fun c => c.toNat < 0x80 then some label
  else if label.all isLabelChar then
    let encoded := "xn--".toList ++ punycode label
    if encoded.length ≤ 63 then some encoded else none
  else none

/-- Why a host has no place in a URL. -/
inductive HostError where
  /-- Four numbers that are no address. -/
  | fourParts (host : String)
  /-- Brackets without an address within. -/
  | eightParts (host : String)
  /-- Labels that cannot be written in ASCII. -/
  | label (host : String)
deriving DecidableEq

/-- The wording of the error. -/
def HostError.message : HostError → String
  | fourParts host => "Invalid IPv4 address: " ++ quoted host
  | eightParts host => "Invalid IPv6 address: " ++ quoted host
  | label host => "Invalid IDNA hostname: " ++ quoted host

/-- The host as it stands in a URL: an address without its brackets, a name in lower case. -/
def encodeHost (host : List Char) : Except HostError (List Char) :=
  if host.isEmpty then .ok []
  else if looksLikeFourParts host then
    if isFourPartAddress host then .ok host else .error (.fourParts (String.ofList host))
  else if host.head? = some '[' && host.getLast? = some ']' then
    let inner := (host.drop 1).dropLast
    if isEightPartAddress inner then .ok inner else .error (.eightParts (String.ofList host))
  else if host.all fun c => c.toNat < 0x80 then
    .ok (encodePart hostSafe (host.map Char.toLower))
  else
    match (segments '.' (host.map lowerChar)).mapM asciiLabel? with
    | some labels => .ok (joinSegments '.' labels)
    | none => .error (.label (String.ofList host))

end IndexSearch.Url
