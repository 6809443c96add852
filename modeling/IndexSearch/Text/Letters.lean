namespace IndexSearch.Text

/-!
# Upper and lower case

The two forms of the letters of the Latin, Greek and Cyrillic blocks that are most in use. Other
characters have one form here.
-/

/-- Whether the code point is a capital letter whose small letter follows at a distance of 32. -/
def isCapital32 (n : Nat) : Bool :=
  (0x41 ≤ n && n ≤ 0x5A) || (0xC0 ≤ n && n ≤ 0xDE && n != 0xD7)
    || (0x391 ≤ n && n ≤ 0x3A9 && n != 0x3A2) || (0x410 ≤ n && n ≤ 0x42F)

/-- Whether the code point is a capital letter whose small letter follows at a distance of 80. -/
def isCapital80 (n : Nat) : Bool := 0x400 ≤ n && n ≤ 0x40F

/-- Whether the code point is a capital letter whose small letter comes next. -/
def isCapital1 (n : Nat) : Bool :=
  n % 2 = 0 && ((0x100 ≤ n && n ≤ 0x12E) || (0x132 ≤ n && n ≤ 0x136) || (0x14A ≤ n && n ≤ 0x176)
      || (0x460 ≤ n && n ≤ 0x480) || (0x48A ≤ n && n ≤ 0x4BE) || (0x4D0 ≤ n && n ≤ 0x52E))
    || n % 2 = 1 && ((0x139 ≤ n && n ≤ 0x147) || (0x179 ≤ n && n ≤ 0x17D)
      || (0x4C1 ≤ n && n ≤ 0x4CD))

/-- Capital letters with their small ones where the distance is another. -/
def otherPairs : List (Nat × Nat) :=
  [(0x178, 0xFF), (0x386, 0x3AC), (0x388, 0x3AD), (0x389, 0x3AE), (0x38A, 0x3AF), (0x38C, 0x3CC),
    (0x38E, 0x3CD), (0x38F, 0x3CE), (0x3AA, 0x3CA), (0x3AB, 0x3CB), (0x4C0, 0x4CF)]

/-- The small form of a letter. -/
def lowerChar (c : Char) : Char :=
  let n := c.toNat
  if isCapital32 n then Char.ofNat (n + 32)
  else if isCapital80 n then Char.ofNat (n + 80)
  else if isCapital1 n then Char.ofNat (n + 1)
  else match otherPairs.find? fun p => p.1 = n with
    | some p => Char.ofNat p.2
    | none => c

/-- Small letters whose capital form is that of another letter or has two letters. -/
def otherCapitals : List (Char × String) :=
  [('ß', "SS"), ('µ', "Μ"), ('ς', "Σ"), ('ı', "I"), ('ſ', "S"), ('ŉ', "ʼN"), ('ΐ', "Ϊ́"),
    ('ΰ', "Ϋ́")]

/-- The capital form of a letter, which may have more than one letter. -/
def upperChar (c : Char) : List Char :=
  let n := c.toNat
  if isCapital32 (n - 32) then [Char.ofNat (n - 32)]
  else if isCapital80 (n - 80) then [Char.ofNat (n - 80)]
  else if isCapital1 (n - 1) then [Char.ofNat (n - 1)]
  else match otherPairs.find? fun p => p.2 = n, otherCapitals.find? fun p => p.1 = c with
    | some p, _ => [Char.ofNat p.1]
    | none, some p => p.2.toList
    | none, none => [c]

/-- The text in capital letters. -/
def upper (s : String) : String := String.ofList (s.toList.flatMap upperChar)

end IndexSearch.Text
