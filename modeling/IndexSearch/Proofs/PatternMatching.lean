import IndexSearch.Text.Pattern
import Mathlib.Data.List.Infix

namespace IndexSearch.Text

/-!
# Matching patterns

What a pattern stands for, part by part, and what is known of it without knowing who reads it.
Servers do not read all patterns in one way: some take brackets and backslashes for signs as well.
What they agree on, `Matcher.IsGlob`, is enough for patterns without these, and `matchesPattern` is
one such reading of many.

* `Matcher.IsGlob.self_append` — a part without brackets and backslashes stands for itself;
* `Matcher.IsGlob.literal_append` — a part without signs stands for itself alone;
* `isGlob_matchesPattern` — `matchesPattern` is one of the readings;
* `matchesPattern_append` — how it reads a pattern in two parts;
* `Matcher.TakesLiterals.isPrefix` — whatever is read of the rest, a front without signs stands for
  itself alone;
* `matchesGlob` — a reading in which brackets and backslashes are signs as well.
-/

/-! ### What all servers agree on -/

/-- Whether a character may stand for others in a pattern, or change what the following ones stand
    for. -/
def IsSign (c : Char) : Prop := c = '*' ∨ c = '?' ∨ c = '[' ∨ c = '\\'

instance (c : Char) : Decidable (IsSign c) := by unfold IsSign; infer_instance

/-- **What servers agree on in reading patterns.** Nothing is said of brackets and backslashes,
    which some servers take for signs and others for themselves, and of a question mark before a
    character beyond ASCII, which some servers take for several characters. -/
structure Matcher.IsGlob (m : Matcher) : Prop where
  /-- Nothing stands for nothing. -/
  nil : m [] [] = true
  /-- A star stands for any text. -/
  star : ∀ {p s t}, t <:+ s → m p t = true → m ('*' :: p) s = true
  /-- A question mark stands for any character. -/
  mark : ∀ {p s} {c : Char}, c.toNat < 128 → m p s = true → m ('?' :: p) (c :: s) = true
  /-- Every other character stands for itself. -/
  literal : ∀ {p s} {c : Char}, ¬ IsSign c →
    (m (c :: p) s = true ↔ ∃ r, s = c :: r ∧ m p r = true)

namespace Matcher.IsGlob

variable {m : Matcher} (hm : m.IsGlob)

include hm

/-- A star stands for every text. -/
theorem star_all (s : List Char) : m ['*'] s = true := hm.star (List.nil_suffix) hm.nil

/-- **A part without brackets and backslashes stands for itself**: a star and a question mark stand
    for themselves as well. -/
theorem self_append {p : List Char} (hp : ∀ c ∈ p, c ≠ '[' ∧ c ≠ '\\') {q s : List Char}
    (h : m q s = true) : m (p ++ q) (p ++ s) = true := by
  -- induction on the front: every character of it takes itself, be it a star, a question mark or
  -- none of the signs
  induction p with
  | nil => exact h
  | cons c p ih =>
    have hrest : m (p ++ q) (p ++ s) = true := ih fun d hd => hp d (List.mem_cons_of_mem c hd)
    obtain ⟨hbracket, hbackslash⟩ := hp c List.mem_cons_self
    by_cases hstar : c = '*'
    · rw [hstar]
      exact hm.star (List.suffix_cons '*' (p ++ s)) hrest
    by_cases hmark : c = '?'
    · rw [hmark]
      exact hm.mark (by decide) hrest
    have hc : ¬ IsSign c := by
      rintro (h | h | h | h)
      exacts [hstar h, hmark h, hbracket h, hbackslash h]
    exact (hm.literal hc).mpr ⟨p ++ s, rfl, hrest⟩

/-- **A part without signs stands for itself alone.** -/
theorem literal_append {p : List Char} (hp : ∀ c ∈ p, ¬ IsSign c) {q s : List Char} :
    m (p ++ q) s = true ↔ ∃ t, s = p ++ t ∧ m q t = true := by
  induction p generalizing s with
  | nil => simp
  | cons c p ih =>
    rw [List.cons_append, hm.literal (hp c List.mem_cons_self)]
    simp only [ih fun d hd => hp d (List.mem_cons_of_mem c hd)]
    constructor
    · rintro ⟨r, rfl, t, rfl, ht⟩
      exact ⟨t, rfl, ht⟩
    · rintro ⟨t, rfl, ht⟩
      exact ⟨p ++ t, rfl, t, rfl, ht⟩

end Matcher.IsGlob

/-! ### One way of reading patterns -/

/-- The suffixes of a text are its ends. -/
theorem mem_suffixes {t s : List Char} : t ∈ suffixes s ↔ t <:+ s := by
  induction s with
  | nil => simp [suffixes]
  | cons c r ih => rw [suffixes, List.mem_cons, ih, List.suffix_cons_iff]

/-- An empty pattern matches the empty text alone. -/
theorem matchesPattern_nil {s : List Char} : matchesPattern [] s = true ↔ s = [] := by
  rw [matchesPattern, List.isEmpty_iff]

/-- A star and what follows it stand for the texts that end in what the rest stands for. -/
theorem matchesPattern_star_cons {ps s : List Char} :
    matchesPattern ('*' :: ps) s = true ↔ ∃ t, t <:+ s ∧ matchesPattern ps t = true := by
  simp only [matchesPattern, if_true, List.any_eq_true, mem_suffixes]

/-- Any other sign stands for one character. -/
theorem matchesPattern_cons {p : Char} (hp : p ≠ '*') {ps s : List Char} :
    matchesPattern (p :: ps) s = true ↔
      ∃ c r, s = c :: r ∧ (p = '?' ∨ p = c) ∧ matchesPattern ps r = true := by
  cases s with
  | nil => simp [matchesPattern, hp]
  | cons c r => simp [matchesPattern, hp]

/-- The matcher reads stars, question marks and plain characters as it should. -/
theorem isGlob_matchesPattern : Matcher.IsGlob matchesPattern where
  nil := rfl
  star := fun ht hmatch => matchesPattern_star_cons.mpr ⟨_, ht, hmatch⟩
  mark := fun _ hmatch => (matchesPattern_cons (by decide)).mpr ⟨_, _, rfl, .inl rfl, hmatch⟩
  literal := by
    intro p s c hc
    have hstar : c ≠ '*' := fun h => hc (.inl h)
    have hmark : c ≠ '?' := fun h => hc (.inr (.inl h))
    rw [matchesPattern_cons hstar]
    constructor
    · rintro ⟨d, r, rfl, hd, hr⟩
      exact ⟨r, by rw [hd.resolve_left hmark], hr⟩
    · rintro ⟨r, rfl, hr⟩
      exact ⟨c, r, rfl, .inr rfl, hr⟩

/-- **A pattern in two parts stands for the texts in two parts.** -/
theorem matchesPattern_append {p q s : List Char} :
    matchesPattern (p ++ q) s = true ↔
      ∃ a b, s = a ++ b ∧ matchesPattern p a = true ∧ matchesPattern q b = true := by
  -- induction on the first part; a star takes a front of the text, any other character one of it
  induction p generalizing s with
  | nil => simp [matchesPattern_nil]
  | cons c r ih =>
    by_cases hc : c = '*'
    · subst hc
      rw [List.cons_append, matchesPattern_star_cons]
      simp only [ih, matchesPattern_star_cons]
      constructor
      · -- what the star stands for is the front of the first part
        rintro ⟨t, ⟨u, rfl⟩, a, b, rfl, ha, hb⟩
        exact ⟨u ++ a, b, (List.append_assoc u a b).symm, ⟨a, List.suffix_append u a, ha⟩, hb⟩
      · rintro ⟨a, b, rfl, ⟨t, ⟨u, rfl⟩, ht⟩, hb⟩
        exact ⟨t ++ b, ⟨u, (List.append_assoc u t b).symm⟩, t, b, rfl, ht, hb⟩
    · rw [List.cons_append, matchesPattern_cons hc]
      simp only [ih, matchesPattern_cons hc]
      constructor
      · rintro ⟨d, t, rfl, hd, a, b, rfl, ha, hb⟩
        exact ⟨d :: a, b, rfl, ⟨d, a, rfl, hd, ha⟩, hb⟩
      · rintro ⟨a, b, rfl, ⟨d, t, rfl, hd, ht⟩, hb⟩
        exact ⟨d, t ++ b, rfl, hd, t, b, rfl, ht, hb⟩

/-! ### Fronts of patterns -/

/-- **The least that servers agree on**: a character that is no sign stands for itself, whatever
    follows it. At the end of a text some servers do without a match for the stars that are left. -/
def Matcher.TakesLiterals (m : Matcher) : Prop :=
  ∀ (c : Char) (p s : List Char), ¬ IsSign c → m (c :: p) s = true →
    ∃ r, s = c :: r ∧ (m p r = true ∨ r = [] ∧ ∀ d ∈ p, d = '*')

/-- **A front of a pattern without signs is a front of every match**, whatever the rest of the
    pattern may be. -/
theorem Matcher.TakesLiterals.isPrefix {m : Matcher} (hm : m.TakesLiterals) {front : List Char}
    (hfront : ∀ c ∈ front, ¬ IsSign c) {rest s : List Char} (h : m (front ++ rest) s = true) :
    front <+: s := by
  induction front generalizing s with
  | nil => exact List.nil_prefix
  | cons c front ih =>
    obtain ⟨hc, htail⟩ := List.forall_mem_cons.mp hfront
    obtain ⟨r, rfl, hmatch | ⟨-, hstars⟩⟩ := hm c (front ++ rest) s hc h
    · exact List.cons_prefix_cons.mpr ⟨rfl, ih htail hmatch⟩
    · cases front with
      | nil => exact List.cons_prefix_cons.mpr ⟨rfl, List.nil_prefix⟩
      | cons d front =>
        -- a star is a sign
        exact absurd (.inl (hstars d List.mem_cons_self)) (htail d List.mem_cons_self)

/-! ### A reading that knows more signs -/

/-- How far a class of characters has been read, for the character that it is to take. -/
structure ClassReading where
  /-- The character. -/
  char : Char
  /-- Whether the class takes the characters that are not in it. -/
  negated : Bool
  /-- Whether the character has been found in it. -/
  found : Bool

namespace ClassReading

/-- Whether the class takes the character. -/
def takes (k : ClassReading) : Bool := k.found != k.negated

/-- The reading after the characters between two characters, which are given in either order. -/
def addRange (k : ClassReading) (a b : Char) : ClassReading :=
  { k with found := k.found || (a ≤ k.char && k.char ≤ b) || (b ≤ k.char && k.char ≤ a) }

end ClassReading

/-- Whether a text is one of those that a pattern stands for, of which a class may have been read in
    part. A class that is not closed ends with the pattern. -/
def matchesFrom : Option ClassReading → Matcher
  | none, [], s => s.isEmpty
  | none, '*' :: p, s => (suffixes s).any (matchesFrom none p)
  | none, '?' :: p, _ :: r => matchesFrom none p r
  | none, '[' :: '^' :: p, c :: r => matchesFrom (some ⟨c, true, false⟩) p r
  | none, '[' :: p, c :: r => matchesFrom (some ⟨c, false, false⟩) p r
  | none, '\\' :: d :: p, c :: r => d = c && matchesFrom none p r
  | none, d :: p, c :: r => d = c && matchesFrom none p r
  | none, _ :: _, [] => false
  | some k, [], r => k.takes && r.isEmpty
  | some k, ']' :: p, r => k.takes && matchesFrom none p r
  | some k, '\\' :: d :: p, r => matchesFrom (some (k.addRange d d)) p r
  | some k, a :: '-' :: b :: p, r => matchesFrom (some (k.addRange a b)) p r
  | some k, d :: p, r => matchesFrom (some (k.addRange d d)) p r

/-- A reading in which brackets hold a class of characters, of which one is taken, or with `^` one
    that is not in it, and a backslash takes the meaning off a sign. -/
def matchesGlob : Matcher := matchesFrom none

/-- A matcher with classes and escapes matches what is literal by itself. -/
theorem takesLiterals_matchesGlob : Matcher.TakesLiterals matchesGlob := by
  intro c p s hc h
  have hstar : c ≠ '*' := fun h => hc (.inl h)
  have hmark : c ≠ '?' := fun h => hc (.inr (.inl h))
  have hbracket : c ≠ '[' := fun h => hc (.inr (.inr (.inl h)))
  have hbackslash : c ≠ '\\' := fun h => hc (.inr (.inr (.inr h)))
  -- what is no sign matches only itself, so none of the other lines of the matcher applies
  rw [matchesGlob] at h
  cases s with
  | nil =>
    rw [matchesFrom] at h
    · cases h
    · exact hstar
  | cons d r =>
    rw [matchesFrom] at h
    · obtain ⟨hd, hr⟩ := Bool.and_eq_true_iff.mp h
      obtain rfl := of_decide_eq_true hd
      exact ⟨r, rfl, .inl hr⟩
    · exact hstar
    · exact hmark
    · exact fun _ h _ => hbracket h
    · exact hbracket
    · exact fun _ _ h _ => hbackslash h

/-- A class that takes what is not in it, a star, and a star that stands for itself. -/
example : matchesGlob "h[^e-g]l*o\\*".toList "hallxxo*".toList = true := by decide

end IndexSearch.Text
