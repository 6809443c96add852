namespace IndexSearch.Text

/-!
# Segments of a text

`segments sep` cuts a text at every occurrence of a character, `joinSegments sep` puts the pieces
together again. A text has one segment more than it has separators, so there is always one.
`cutAtFirst` and `cutAtLast` split a text in two.
-/

/-- The pieces of a text between the occurrences of a character. -/
def segments (sep : Char) : List Char → List (List Char)
  | [] => [[]]
  | c :: r =>
    if c = sep then [] :: segments sep r
    else match segments sep r with
      | [] => [[c]]
      | s :: ss => (c :: s) :: ss

/-- The pieces with a separator between them. -/
def joinSegments (sep : Char) : List (List Char) → List Char
  | [] => []
  | [s] => s
  | s :: ss => s ++ sep :: joinSegments sep ss

/-- The text before the first occurrence of a character and the text after it, if it occurs. -/
def cutAtFirst (sep : Char) (cs : List Char) : List Char × Option (List Char) :=
  match cs.dropWhile (· ≠ sep) with
  | [] => (cs, none)
  | _ :: r => (cs.takeWhile (· ≠ sep), some r)

/-- The text before the last occurrence of a character, if it occurs, and the text after it. -/
def cutAtLast (sep : Char) (cs : List Char) : Option (List Char) × List Char :=
  match cs.reverse.dropWhile (· ≠ sep) with
  | [] => (none, cs)
  | _ :: r => (some r.reverse, (cs.reverse.takeWhile (· ≠ sep)).reverse)

/-- There is at least one segment. -/
theorem segments_ne_nil (sep : Char) (cs : List Char) : segments sep cs ≠ [] := by
  cases cs with
  | nil => simp [segments]
  | cons c r =>
    simp only [segments]
    split
    · simp
    · split <;> simp

/-- Joining the segments of a text gives the text back. -/
theorem joinSegments_segments (sep : Char) (cs : List Char) :
    joinSegments sep (segments sep cs) = cs := by
  induction cs with
  | nil => rfl
  | cons c r ih =>
    simp only [segments]
    split
    next h =>
      cases hs : segments sep r with
      | nil => exact absurd hs (segments_ne_nil sep r)
      | cons s ss => rw [hs] at ih; simp [joinSegments, ih, h]
    next h =>
      split
      next hs => exact absurd hs (segments_ne_nil sep r)
      next s ss hs =>
        rw [hs] at ih
        cases ss with
        | nil => simpa [joinSegments] using ih
        | cons t ts => simpa [joinSegments] using ih

end IndexSearch.Text
