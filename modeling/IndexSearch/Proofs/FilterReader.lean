import IndexSearch.Proofs.FilterChain
import IndexSearch.Proofs.PlainText

namespace IndexSearch

open Number

/-!
# The reader of filters

`readTerms` reads the text of a filter from left to right, without looking back, and cuts it into
its leaves and combiners. Words end at a blank, a text in quotes at a quote that is not doubled.

* `Term` — a leaf as it can be read: the comparison of a field with an operand, the comparison of a
  distance, or `true`;
* `readTerm` — reads one term and leaves what follows it;
* `readTerms` — reads a whole text.
-/

/-- What a field is compared with. -/
inductive Operand where
  /-- A text, without the quotes around and the doubling inside it. -/
  | quoted (s : String)
  /-- Any other literal, as it is written. -/
  | bare (s : String)
deriving DecidableEq

/-- A leaf of a filter. -/
inductive Term where
  /-- The leaf that holds of everything. -/
  | always
  /-- The comparison of a field with an operand. -/
  | comparison (field : String) (c : Comparison) (operand : Operand)
  /-- The comparison of the distance between a field and a point with a number. -/
  | distance (field longitude latitude : String) (c : Comparison) (number : String)
deriving DecidableEq

/-! ### The reader -/

/-- Reads a word of the language with a blank on either side. -/
def readWord {α : Type} (word : α → String) (all : List α) (cs : List Char) :
    Option (α × List Char) :=
  all.findSome? fun a => ((" " ++ word a ++ " ").toList.isPrefixOf? cs).map fun r => (a, r)

/-- Reads a text whose opening quote has been passed: two quotes stand for one, and one ends it. -/
def readQuoted : List Char → Option (List Char × List Char)
  | [] => none
  | '\x27' :: '\x27' :: r => (readQuoted r).map fun (s, rest) => ('\x27' :: s, rest)
  | '\x27' :: r => some ([], r)
  | c :: r => (readQuoted r).map fun (s, rest) => (c :: s, rest)

/-- Reads a text in quotes, or all that comes before the next blank. -/
def readOperand : List Char → Option (Operand × List Char)
  | '\x27' :: r => (readQuoted r).map fun (s, rest) => (.quoted (String.ofList s), rest)
  | cs => some (.bare (String.ofList (cs.takeWhile (· ≠ ' '))), cs.dropWhile (· ≠ ' '))

/-- Reads the rest of the comparison of a distance: the field up to a comma, the coordinates up to a
    blank and a parenthesis, the comparison, and the number up to a blank. -/
def readDistance (cs : List Char) : Option (Term × List Char) := do
  let field := cs.takeWhile (· ≠ ',')
  let cs ← ", geography'POINT(".toList.isPrefixOf? (cs.dropWhile (· ≠ ','))
  let longitude := cs.takeWhile (· ≠ ' ')
  let cs ← " ".toList.isPrefixOf? (cs.dropWhile (· ≠ ' '))
  let latitude := cs.takeWhile (· ≠ ')')
  let cs ← ")')".toList.isPrefixOf? (cs.dropWhile (· ≠ ')'))
  let (c, cs) ← readWord Comparison.word Comparison.all cs
  return (.distance (String.ofList field) (String.ofList longitude) (String.ofList latitude) c
    (String.ofList (cs.takeWhile (· ≠ ' '))), cs.dropWhile (· ≠ ' '))

/-- Reads one term. A word is the name of a field if a comparison follows it, whatever the word is;
    otherwise it has to be `true`. -/
def readTerm (cs : List Char) : Option (Term × List Char) :=
  match "geo.distance(".toList.isPrefixOf? cs with
  | some r => readDistance r
  | none =>
    let field := cs.takeWhile (· ≠ ' ')
    let rest := cs.dropWhile (· ≠ ' ')
    match readWord Comparison.word Comparison.all rest with
    | some (c, r) =>
      (readOperand r).map fun (o, r) => (.comparison (String.ofList field) c o, r)
    | none => if field = "true".toList then some (.always, rest) else none

/-- Reads a combiner and the term after it. -/
def readLink (cs : List Char) : Option ((Combiner × Term) × List Char) := do
  let (k, r) ← readWord Combiner.word Combiner.all cs
  let (t, r) ← readTerm r
  return ((k, t), r)

/-! ### The reader takes from the front

What is left after reading is an end of the text, so reading comes to an end. -/

/-- What is left after a prefix is the end of the text. -/
theorem suffix_of_isPrefixOf? {p cs r : List Char} (h : p.isPrefixOf? cs = some r) : r <:+ cs :=
  ⟨p, List.isPrefixOf?_eq_some_iff_append_eq.mp h⟩

/-- A word takes something off the text. -/
theorem readWord_length {α : Type} {word : α → String} {all : List α} {cs r : List Char} {a : α}
    (h : readWord word all cs = some (a, r)) : r.length < cs.length := by
  obtain ⟨b, -, hb⟩ := List.exists_of_findSome?_eq_some h
  obtain ⟨t, ht, heq⟩ := Option.map_eq_some_iff.mp hb
  obtain ⟨-, rfl⟩ := Prod.mk.inj heq
  rw [← List.isPrefixOf?_eq_some_iff_append_eq.mp ht]
  simp only [String.toList_append, List.length_append]
  have hblank : 0 < " ".toList.length := by decide
  omega

/-- What is left after a quoted text is the end of the text. -/
theorem readQuoted_suffix {cs s r : List Char} (h : readQuoted cs = some (s, r)) : r <:+ cs := by
  fun_induction readQuoted cs generalizing s with
  | case1 => simp at h
  | case2 t ih =>
    obtain ⟨⟨u, v⟩, hu, heq⟩ := Option.map_eq_some_iff.mp h
    obtain ⟨-, rfl⟩ := Prod.mk.inj heq
    exact (ih hu).trans ⟨['\x27', '\x27'], rfl⟩
  | case3 t =>
    obtain ⟨-, rfl⟩ := Prod.mk.inj (Option.some.inj h)
    exact ⟨['\x27'], rfl⟩
  | case4 c t _ _ ih =>
    obtain ⟨⟨u, v⟩, hu, heq⟩ := Option.map_eq_some_iff.mp h
    obtain ⟨-, rfl⟩ := Prod.mk.inj heq
    exact (ih hu).trans ⟨[c], rfl⟩

/-- What is left after an operand is the end of the text. -/
theorem readOperand_suffix {cs r : List Char} {o : Operand} (h : readOperand cs = some (o, r)) :
    r <:+ cs := by
  unfold readOperand at h
  split at h
  · obtain ⟨⟨u, v⟩, hu, heq⟩ := Option.map_eq_some_iff.mp h
    obtain ⟨-, rfl⟩ := Prod.mk.inj heq
    exact (readQuoted_suffix hu).trans ⟨['\x27'], rfl⟩
  · obtain ⟨-, rfl⟩ := Prod.mk.inj (Option.some.inj h)
    exact List.dropWhile_suffix _

/-- What is left after a distance is no longer than the text. -/
theorem readDistance_length {cs r : List Char} {t : Term} (h : readDistance cs = some (t, r)) :
    r.length ≤ cs.length := by
  simp only [readDistance, Option.bind_eq_bind, Option.bind_eq_some_iff] at h
  obtain ⟨r₁, h₁, r₂, h₂, r₃, h₃, ⟨c, r₄⟩, h₄, heq⟩ := h
  obtain ⟨-, rfl⟩ := Prod.mk.inj (Option.some.inj heq)
  have l₁ := ((suffix_of_isPrefixOf? h₁).trans (List.dropWhile_suffix _)).length_le
  have l₂ := ((suffix_of_isPrefixOf? h₂).trans (List.dropWhile_suffix _)).length_le
  have l₃ := ((suffix_of_isPrefixOf? h₃).trans (List.dropWhile_suffix _)).length_le
  have l₄ := readWord_length h₄
  have l₅ : (r₄.dropWhile (· ≠ ' ')).length ≤ r₄.length := (List.dropWhile_suffix _).length_le
  show (r₄.dropWhile (· ≠ ' ')).length ≤ cs.length
  omega

/-- What is left after a term is no longer than the text. -/
theorem readTerm_length {cs r : List Char} {t : Term} (h : readTerm cs = some (t, r)) :
    r.length ≤ cs.length := by
  unfold readTerm at h
  split at h
  · rename_i u hu
    exact Nat.le_trans (readDistance_length h) (suffix_of_isPrefixOf? hu).length_le
  · -- what is left after a name is no longer than what was there
    have hd : (cs.dropWhile (· ≠ ' ')).length ≤ cs.length := (List.dropWhile_suffix _).length_le
    simp only at h
    split at h
    · rename_i c u hc
      obtain ⟨⟨o, v⟩, ho, heq⟩ := Option.map_eq_some_iff.mp h
      obtain ⟨-, rfl⟩ := Prod.mk.inj heq
      have hw := readWord_length hc
      have hs := (readOperand_suffix ho).length_le
      show v.length ≤ cs.length
      omega
    · split at h
      · obtain ⟨-, rfl⟩ := Prod.mk.inj (Option.some.inj h)
        exact hd
      · simp at h

/-- A combiner and a term take something off the text, so the reader comes to an end. -/
theorem readLink_length {cs r : List Char} {p : Combiner × Term} (h : readLink cs = some (p, r)) :
    r.length < cs.length := by
  simp only [readLink, Option.bind_eq_bind, Option.bind_eq_some_iff] at h
  obtain ⟨⟨k, u⟩, hk, ⟨t, v⟩, ht, heq⟩ := h
  obtain ⟨-, rfl⟩ := Prod.mk.inj (Option.some.inj heq)
  exact Nat.lt_of_le_of_lt (readTerm_length ht) (readWord_length hk)

/-- Reads combiners and terms up to the end of the text. -/
def readRest (cs : List Char) : Option (List (Combiner × Term)) :=
  if cs.isEmpty then some []
  else match _h : readLink cs with
    | none => none
    | some (p, r) => (readRest r).map (p :: ·)
termination_by cs.length
decreasing_by exact readLink_length _h

/-- Reads the text of a filter: a term, and then combiners and terms up to the end. -/
def readTerms (s : String) : Option (Chain Term) := do
  let (t, r) ← readTerm s.toList
  return ⟨t, ← readRest r⟩

end IndexSearch
