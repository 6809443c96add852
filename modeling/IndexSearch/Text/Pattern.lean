namespace IndexSearch.Text

/-!
# Patterns

A pattern stands for texts: `*` for any text, `?` for any single character, and every other
character for itself. `matchesPattern` decides whether a text is one of them. Other ways of reading
patterns know more signs than these; a `Matcher` is any one of them.
-/

/-- A way of reading patterns: whether a text is one of those that a pattern stands for. -/
abbrev Matcher := List Char → List Char → Bool

/-- The text and all that is left of it when characters are taken from its front. -/
def suffixes : List Char → List (List Char)
  | [] => [[]]
  | c :: r => (c :: r) :: suffixes r

/-- Whether a text is one of those that a pattern stands for. -/
def matchesPattern : List Char → List Char → Bool
  | [], s => s.isEmpty
  | p :: ps, s =>
    if p = '*' then (suffixes s).any (matchesPattern ps)
    else match s with
      | [] => false
      | c :: r => (p = '?' || p = c) && matchesPattern ps r

end IndexSearch.Text
