import IndexSearch.Filter.Geography
import IndexSearch.Proofs.Digits

namespace IndexSearch

open Number Text Time

/-!
# Texts that end nothing

In a filter a blank ends a word, a quote begins or ends a text, and a parenthesis ends a call. The
texts of numbers, truth values and moments hold none of these characters, whatever they denote:

* `plain_realText`, `plain_fixedText` — doubles, with all their digits or with six places;
* `plain_written` — all literals but texts.
-/

/-- Whether a character neither ends a word or a call nor begins or ends a quoted text. -/
def isPlain (c : Char) : Bool := c != ' ' && c != '\x27' && c != ')'

/-- Whether a text ends nothing. -/
def Plain (cs : List Char) : Prop := ∀ c ∈ cs, isPlain c = true

instance (cs : List Char) : Decidable (Plain cs) :=
  decidable_of_iff (cs.all isPlain = true) List.all_eq_true

/-- Digits are plain. -/
theorem isPlain_of_isDigit {c : Char} (h : c.isDigit = true) : isPlain c = true := by
  simp only [isPlain, Bool.and_eq_true, bne_iff_ne, ne_eq]
  refine ⟨⟨?_, ?_⟩, ?_⟩ <;> (rintro rfl; revert h; decide)

/-- No text is plain. -/
theorem plain_nil : Plain [] := by simp [Plain]

/-- Two texts are plain together if each of them is. -/
theorem plain_append {a b : List Char} : Plain (a ++ b) ↔ Plain a ∧ Plain b := by
  simp only [Plain, List.mem_append, or_imp, forall_and]

/-- A text is plain if its first character is and the others are. -/
theorem plain_cons {c : Char} {a : List Char} : Plain (c :: a) ↔ isPlain c = true ∧ Plain a := by
  simp only [Plain, List.mem_cons, forall_eq_or_imp]

/-- A plain character is plain however often it is repeated. -/
theorem plain_replicate {c : Char} (n : Nat) (h : isPlain c = true) :
    Plain (List.replicate n c) := by
  intro d hd
  rw [List.eq_of_mem_replicate hd]
  exact h

/-- A text is plain if it has no other characters than a plain one. -/
theorem plain_of_subset {a b : List Char} (h : ∀ c ∈ a, c ∈ b) (hb : Plain b) : Plain a :=
  fun c hc => hb c (h c hc)

/-- Of two plain texts either one is plain. -/
theorem plain_ite {p : Prop} [Decidable p] {s t : String} (hs : Plain s.toList)
    (ht : Plain t.toList) : Plain (if p then s else t).toList := by
  split
  · exact hs
  · exact ht

/-! ### Numbers -/

/-- The digits of a number are plain. -/
theorem plain_digits (n : Nat) : Plain (digits n) :=
  fun _ h => isPlain_of_isDigit (isDigit_of_mem_digits h)

/-- A padded number is plain. -/
theorem plain_padded (width n : Nat) : Plain (padded width n).toList :=
  fun _ h => isPlain_of_isDigit (isDigit_of_mem_padded h)

/-- The text of a number is plain. -/
theorem plain_natText (n : Nat) : Plain (toString n).toList := by
  rw [toList_toString]
  exact plain_digits n

/-- The text of a whole number is plain: of all signs it has the minus alone. -/
theorem plain_intText (n : Int) : Plain (toString n).toList := by
  cases n with
  | ofNat m => exact plain_natText m
  | negSucc m =>
    show Plain ("-" ++ (m + 1).repr).toList
    rw [String.toList_append, plain_append]
    exact ⟨by decide, plain_natText (m + 1)⟩

/-- Significant digits are plain. -/
theorem plain_significant (n : Numeral) : Plain n.significant := by
  refine plain_of_subset (fun c hc => ?_) (plain_digits n.coefficient)
  rw [Numeral.significant, List.mem_reverse] at hc
  exact List.mem_reverse.mp ((List.dropWhile_suffix _).mem hc)

/-- An exponent is plain. -/
theorem plain_exponentText (e : Int) : Plain (exponentText e).toList := by
  rw [exponentText, String.toList_append, plain_append]
  exact ⟨plain_ite (by decide) (by decide), plain_padded 2 e.natAbs⟩

/-- A numeral is plain. -/
theorem plain_numeralText (n : Numeral) : Plain n.text.toList := by
  have hs := plain_significant n
  simp only [Numeral.text]
  split
  · decide
  · split
    · -- scientific: a digit or digits around a point, and an exponent
      simp only [String.toList_append, String.toList_ofList, plain_append]
      refine ⟨⟨?_, by decide⟩, plain_exponentText _⟩
      split
      · rename_i d hd; rw [hd] at hs; exact hs
      · rename_i d r _ hd
        rw [hd, plain_cons] at hs
        exact plain_cons.mpr ⟨hs.1, plain_cons.mpr ⟨by decide, hs.2⟩⟩
      · exact plain_nil
    · split
      · -- positional: zeros before the digits, after them, or a point among them
        simp only [String.toList_ofList, plain_append]
        exact ⟨⟨by decide, plain_replicate _ (by decide)⟩, hs⟩
      · split
        · simp only [String.toList_ofList, plain_append]
          exact ⟨⟨hs, plain_replicate _ (by decide)⟩, by decide⟩
        · simp only [String.toList_ofList, plain_append, plain_cons]
          exact ⟨plain_of_subset (fun _ => List.mem_of_mem_take) hs, by decide,
            plain_of_subset (fun _ => List.mem_of_mem_drop) hs⟩

/-- The text of a double ends nothing if the names of the special doubles do not. -/
theorem plain_realText (names : SpecialNames) (hn : Plain names.nan.toList)
    (hi : Plain names.infinity.toList) (x : Binary64) : Plain (x.text names).toList := by
  cases x with
  | nan => exact hn
  | infinite negative =>
    rw [Binary64.text, String.toList_append, plain_append]
    exact ⟨plain_ite (by decide) (by decide), hi⟩
  | finite negative m e h =>
    rw [Binary64.text, String.toList_append, plain_append]
    exact ⟨plain_ite (by decide) (by decide), plain_numeralText _⟩

/-- The text of a double with six decimal places ends nothing. -/
theorem plain_fixedText (x : Binary64) : Plain x.fixedText.toList := by
  cases x with
  | nan => decide
  | infinite negative => cases negative <;> decide
  | finite negative m e h =>
    simp only [Binary64.fixedText, Binary64.millionthsText, String.toList_append, plain_append]
    exact ⟨plain_ite (by decide) (by decide), ⟨plain_natText _, by decide⟩, plain_padded _ _⟩

/-! ### Moments -/

/-- A fraction of a second is plain. -/
theorem plain_fractionText (us : Nat) : Plain (fractionText us).toList := by
  refine plain_ite (by decide) ?_
  rw [String.toList_append, plain_append]
  exact ⟨by decide, plain_padded _ _⟩

/-- An offset is plain. -/
theorem plain_offsetText (o : Int) : Plain (offsetText o).toList := by
  simp only [offsetText, clockParts, String.toList_append, plain_append]
  refine ⟨⟨⟨⟨plain_ite (by decide) (by decide), plain_padded _ _⟩, by decide⟩,
    plain_padded _ _⟩, plain_ite (by decide) ?_⟩
  simp only [String.toList_append, plain_append]
  exact ⟨⟨by decide, plain_padded _ _⟩, plain_fractionText _⟩

/-- A zone is plain. -/
theorem plain_zoneText (o : Int) : Plain (zoneText o).toList := by
  simp only [zoneText, clockParts]
  refine plain_ite ?_ (plain_offsetText o)
  rw [String.toList_append, plain_append]
  refine ⟨by decide, plain_ite (by decide) ?_⟩
  simp only [String.toList_append, plain_append]
  exact ⟨⟨by decide, plain_padded _ _⟩, plain_fractionText _⟩

/-- A moment with its zone is plain. -/
theorem plain_zonedText (t : DateTime) : Plain t.zonedText.toList := by
  simp only [DateTime.zonedText, Date.text, DateTime.clockText, String.toList_append, plain_append]
  refine ⟨⟨⟨?_, by decide⟩, ?_⟩, plain_zoneText _⟩
  · exact ⟨⟨⟨⟨plain_padded _ _, by decide⟩, plain_padded _ _⟩, by decide⟩, plain_padded _ _⟩
  · exact ⟨⟨⟨⟨⟨plain_padded _ _, by decide⟩, plain_padded _ _⟩, by decide⟩, plain_padded _ _⟩,
      plain_fractionText _⟩

/-- All literals but texts end nothing. -/
theorem plain_written (l : Literal) (hl : ∀ s, l ≠ .text s) : Plain l.written.toList := by
  cases l with
  | text s => exact absurd rfl (hl s)
  | bool b => cases b <;> decide
  | int n => exact plain_intText n
  | real x => exact plain_realText _ (by decide) (by decide) x
  | dateTime t => exact plain_zonedText t

end IndexSearch
