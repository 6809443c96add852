import IndexSearch.Url.HostName

namespace IndexSearch.Url

open Text

/-!
# Addresses of eight groups

An address of eight numbers has many written forms. `groupsOf?` reads one and `writeGroups` gives
the normal one: digits in lower case without needless zeros, and two colons for the longest run of
zeros, the first one of equals.
-/

/-- The number that hexadecimal digits stand for. -/
def groupValue (cs : List Char) : Nat := cs.foldl (fun n c => 16 * n + hexValue c) 0

/-- The number that decimal digits stand for. -/
def octetValue (cs : List Char) : Nat := cs.foldl (fun n c => 10 * n + (c.toNat - '0'.toNat)) 0

/-- The numbers of a piece of an address; four numbers with points between them make two. -/
def groupValues (part : List Char) : List Nat :=
  match (segments '.' part).map octetValue with
  | [a, b, c, d] => [256 * a + b, 256 * c + d]
  | _ => [groupValue part]

/-- The eight numbers of an address. -/
def groupsOf? (cs : List Char) : Option (List Nat) :=
  if cs.contains '%' || !isEightPartAddress cs then none
  else
    let parts := segments ':' cs
    let front := parts.takeWhile fun p => !p.isEmpty
    let back := if front.length = parts.length then [] else
      (parts.reverse.takeWhile fun p => !p.isEmpty).reverse
    let front := front.flatMap groupValues
    let back := back.flatMap groupValues
    some (front ++ List.replicate (8 - front.length - back.length) 0 ++ back)

/-- The length of the run of zeros at the beginning. -/
def zeroRun (groups : List Nat) : Nat := (groups.takeWhile (· = 0)).length

/-- Where the longest run of zeros begins, with its length; of equal runs the first one. -/
def longestZeroRun : List Nat → Nat × Nat
  | [] => (0, 0)
  | g :: r =>
    let (i, n) := longestZeroRun r
    if n ≤ zeroRun (g :: r) then (0, zeroRun (g :: r)) else (i + 1, n)

/-- A number in hexadecimal digits. -/
def groupDigits (n : Nat) : List Char := Nat.toDigits 16 n

/-- Numbers with colons between them. -/
def joinGroups (groups : List Nat) : List Char := joinSegments ':' (groups.map groupDigits)

/-- The normal form of an address; a single zero is written out. -/
def writeGroups (groups : List Nat) : List Char :=
  match longestZeroRun groups with
  | (i, n) =>
    if n < 2 then joinGroups groups
    else joinGroups (groups.take i) ++ [':', ':'] ++ joinGroups (groups.drop (i + n))

end IndexSearch.Url
