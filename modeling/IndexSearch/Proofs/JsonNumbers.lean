import IndexSearch.Json.Reader
import IndexSearch.Json.Writer
import IndexSearch.Proofs.NumeralText

namespace IndexSearch.Json

open Number

/-!
# Reading numbers and words back

What is written for a scalar value is read as the value, whatever of a list or an object follows it.
A whole number is read digit by digit; the text of a double is read part by part, and the numeral
that the parts make has the double as its nearest one.

* `EndsNumber` — what may follow a number without being taken for a part of it;
* `number?_intText` — a whole number is read from its text;
* `number?_layout` — a double is read from any layout of a numeral that stands for it;
* `readScalar_real` — a double is read from its text, special ones included.
-/

/-- What does not begin with a character that could continue a number. -/
def EndsNumber (rest : List Char) : Prop :=
  ∀ c ∈ rest.head?, c.isDigit = false ∧ c ≠ '.' ∧ c ≠ 'e' ∧ c ≠ 'E'

/-- The minus sign of a negative number. -/
def signChars (negative : Bool) : List Char := if negative then ['-'] else []

/-! ### The parts of a number -/

/-- The digits before the point are taken up to the first character that is none. -/
theorem wholeDigits_append {ds rest : List Char} (h : IsWhole ds)
    (hr : ∀ c ∈ rest.head?, c.isDigit = false) : wholeDigits (ds ++ rest) = (ds, rest) := by
  obtain ⟨hdigits, rfl | ⟨d, r, rfl, hd⟩⟩ := h
  · rfl
  · unfold wholeDigits
    split
    · rename_i r' heq
      rw [List.cons_append, List.cons.injEq] at heq
      exact absurd heq.1 hd
    · rw [takeWhile_append_stop hdigits hr, dropWhile_append_stop hdigits hr]

/-- The point and the digits after it are taken off the front. -/
theorem fractionDigits_append (l : Layout) (hdigits : ∀ c ∈ l.fraction, c.isDigit = true)
    {rest : List Char} (hr : ∀ c ∈ rest.head?, c.isDigit = false ∧ c ≠ '.') :
    fractionDigits (l.fractionChars ++ rest) = (l.fractionChars, rest) := by
  unfold Layout.fractionChars
  split
  · -- without a fraction what follows must not look like one
    rw [List.nil_append]
    unfold fractionDigits
    split
    · exact absurd rfl (hr '.' rfl).2
    · rfl
  · rename_i hne
    have hstop : ∀ c ∈ rest.head?, c.isDigit = false := fun c hc => (hr c hc).1
    simp only [List.cons_append, fractionDigits, takeWhile_append_stop hdigits hstop,
      dropWhile_append_stop hdigits hstop, if_neg hne]

/-- An exponent is read from its text. -/
theorem exponentDigits_append (l : Layout) {rest : List Char} (hr : EndsNumber rest) :
    exponentDigits (l.exponentChars ++ rest) = (l.exponentChars, rest) := by
  unfold Layout.exponentChars
  -- without an exponent what follows must not look like one
  cases l.exponent with
  | none =>
    cases rest with
    | nil => rfl
    | cons c r =>
      obtain ⟨-, -, he, hE⟩ := hr c rfl
      simp [exponentDigits, he, hE]
  | some e =>
    have hstop : ∀ c ∈ rest.head?, c.isDigit = false := fun c hc => (hr c hc).1
    have hdigits : ∀ c ∈ (padded 2 e.natAbs).toList, c.isDigit = true :=
      fun _ => isDigit_of_mem_padded
    have hne : (padded 2 e.natAbs).toList.isEmpty = false := by
      rw [toList_padded, List.isEmpty_eq_false_iff]
      exact List.append_ne_nil_of_right_ne_nil _ (digits_ne_nil _)
    have htake := takeWhile_append_stop hdigits hstop
    have hdrop := dropWhile_append_stop hdigits hstop
    -- the sign is written in either case, and the digits are those of the size
    by_cases he : e < 0
    · simp [exponentDigits, exponentText, he, htake, hdrop, hne]
    · simp [exponentDigits, exponentText, he, htake, hdrop, hne]

/-- An exponent does not begin like a fraction. -/
theorem head?_exponentChars (l : Layout) {rest : List Char}
    (hr : ∀ c ∈ rest.head?, c.isDigit = false ∧ c ≠ '.') :
    ∀ c ∈ (l.exponentChars ++ rest).head?, c.isDigit = false ∧ c ≠ '.' := by
  unfold Layout.exponentChars
  cases l.exponent with
  | none => exact hr
  | some e =>
    intro c hc
    rw [List.cons_append, List.head?_cons, Option.mem_some_iff] at hc
    rw [← hc]
    decide

/-- A fraction does not begin with a digit. -/
theorem head?_fractionChars (l : Layout) {rest : List Char}
    (hr : ∀ c ∈ rest.head?, c.isDigit = false) :
    ∀ c ∈ (l.fractionChars ++ rest).head?, c.isDigit = false := by
  unfold Layout.fractionChars
  split
  · exact hr
  · intro c hc
    rw [List.cons_append, List.head?_cons, Option.mem_some_iff] at hc
    rw [← hc]
    decide

/-! ### The numeral of a layout -/

/-- An exponent is read from its characters, and zero from none. -/
theorem exponentOfChars?_exponentChars (l : Layout) :
    Numeral.exponentOfChars? l.exponentChars = some (l.exponent.getD 0) := by
  unfold Layout.exponentChars
  cases l.exponent with
  | none => rfl
  | some e =>
    by_cases he : e < 0
    · have habs : -(e.natAbs : Int) = e := by omega
      have hsplit : splitSign ("-".toList ++ (padded 2 e.natAbs).toList) =
          (true, (padded 2 e.natAbs).toList) := rfl
      simp only [Numeral.exponentOfChars?, exponentText, if_pos he, String.toList_append, hsplit,
        natOfChars?_padded]
      exact congrArg some habs
    · have habs : (e.natAbs : Int) = e := by omega
      have hsplit : splitSign ("+".toList ++ (padded 2 e.natAbs).toList) =
          (false, (padded 2 e.natAbs).toList) := rfl
      simp only [Numeral.exponentOfChars?, exponentText, if_neg he, String.toList_append, hsplit,
        natOfChars?_padded]
      exact congrArg some habs

/-- The sign is taken off the front. -/
theorem splitSign_signChars (negative : Bool) {body : List Char}
    (h : ∃ d r, body = d :: r ∧ d.isDigit = true) :
    splitSign (signChars negative ++ body) = (negative, body) := by
  obtain ⟨d, r, rfl, hd⟩ := h
  cases negative with
  | true => rfl
  | false =>
    show splitSign (d :: r) = _
    -- a digit is neither of the two signs
    unfold splitSign
    split
    · rename_i heq
      rw [(List.cons.inj heq).1] at hd
      exact absurd hd (by decide)
    · rename_i heq
      rw [(List.cons.inj heq).1] at hd
      exact absurd hd (by decide)
    · rfl

/-- A numeral begins with a digit. -/
theorem exists_chars_eq_cons {l : Layout} (hl : l.WellFormed) (rest : List Char) :
    ∃ d r, l.chars ++ rest = d :: r ∧ d.isDigit = true := by
  obtain ⟨d, r, hwhole, hd⟩ := hl.whole.exists_cons
  refine ⟨d, r ++ l.fractionChars ++ l.exponentChars ++ rest, ?_, hd⟩
  rw [Layout.chars, hwhole]
  rfl

/-- The text of a layout is read as the numeral that it denotes. -/
theorem ofChars?_layout (negative : Bool) {l : Layout} (hl : l.WellFormed) :
    Numeral.ofChars? (signChars negative ++ l.chars) = some (l.numeral negative) := by
  have hbody := exists_chars_eq_cons hl []
  rw [List.append_nil] at hbody
  have hend : ∀ c ∈ ([] : List Char).head?, c.isDigit = false ∧ c ≠ '.' := by simp
  have hexponent := head?_exponentChars l hend
  rw [List.append_nil] at hexponent
  have hdigit : ∀ c ∈ l.exponentChars.head?, c.isDigit = false := fun c hc => (hexponent c hc).1
  have hfraction := head?_fractionChars l hdigit
  have hchars : l.chars = l.whole ++ (l.fractionChars ++ l.exponentChars) :=
    List.append_assoc _ _ _
  have hne := hl.whole.isEmpty_eq_false
  simp only [Numeral.ofChars?, splitSign_signChars negative hbody]
  rw [hchars, takeWhile_append_stop hl.whole.1 hfraction,
    dropWhile_append_stop hl.whole.1 hfraction]
  simp only [hne, Bool.false_and, Bool.false_eq_true, if_false]
  unfold Layout.fractionChars
  by_cases hempty : l.fraction = []
  · -- there is no point, so the exponent comes next and is not taken for one
    rw [if_pos (by rw [hempty]; rfl), List.nil_append]
    split
    · rename_i r heq
      rw [heq] at hexponent
      exact absurd rfl (hexponent '.' rfl).2
    · rw [exponentOfChars?_exponentChars, Layout.numeral, hempty]
      rfl
  · rw [if_neg (by rwa [List.isEmpty_iff])]
    simp only [List.cons_append, takeWhile_append_stop hl.fraction hdigit,
      dropWhile_append_stop hl.fraction hdigit, exponentOfChars?_exponentChars, Option.map_some,
      Layout.numeral]

/-! ### Numbers -/

/-- A number with or without a sign is read by its parts. -/
theorem number?_signChars (negative : Bool) {body whole fraction exponent r₁ r₂ r₃ : List Char}
    (hbody : ∃ d r, body = d :: r ∧ d.isDigit = true) (hwhole : wholeDigits body = (whole, r₁))
    (hne : whole.isEmpty = false) (hfraction : fractionDigits r₁ = (fraction, r₂))
    (hexponent : exponentDigits r₂ = (exponent, r₃)) :
    number? (signChars negative ++ body) =
      if fraction.isEmpty && exponent.isEmpty then
        some (int (if negative then -(ofDigits whole : Int) else ofDigits whole), r₃)
      else
        (Numeral.ofChars? (signChars negative ++ (whole ++ fraction ++ exponent))).map fun n =>
          (real n.toBinary64, r₃) := by
  obtain ⟨d, r, rfl, hd⟩ := hbody
  cases negative with
  | true => simp [number?, signChars, hwhole, hne, hfraction, hexponent]
  | false =>
    show number? (d :: r) = _
    unfold number?
    -- a digit is no minus sign, so the digits are the body
    split
    rename_i negative' body' hsplit
    split at hsplit
    · rename_i heq
      rw [(List.cons.inj heq).1] at hd
      exact absurd hd (by decide)
    · obtain ⟨rfl, rfl⟩ := Prod.mk.inj hsplit
      simp [signChars, hwhole, hne, hfraction, hexponent]

/-- A double is read from a layout of a numeral that stands for it. -/
theorem number?_layout (negative : Bool) {l : Layout} (hl : l.WellFormed) {rest : List Char}
    (hr : EndsNumber rest) :
    number? (signChars negative ++ (l.chars ++ rest))
      = some (real (l.numeral negative).toBinary64, rest) := by
  have hrest : ∀ c ∈ rest.head?, c.isDigit = false ∧ c ≠ '.' := fun c hc =>
    ⟨(hr c hc).1, (hr c hc).2.1⟩
  have hexponent := head?_exponentChars l hrest
  have hfraction := head?_fractionChars l fun c hc => (hexponent c hc).1
  have hwhole : wholeDigits (l.chars ++ rest)
      = (l.whole, l.fractionChars ++ (l.exponentChars ++ rest)) := by
    rw [Layout.chars, List.append_assoc, List.append_assoc, wholeDigits_append hl.whole hfraction]
  have hne := hl.whole.isEmpty_eq_false
  -- a point or an exponent tells the text from that of a whole number
  have hmarked : ¬ (l.fractionChars.isEmpty && l.exponentChars.isEmpty) = true := by
    intro hempty
    rw [Bool.and_eq_true, List.isEmpty_iff, List.isEmpty_iff] at hempty
    obtain ⟨hf, he⟩ := hempty
    have hnone : l.fraction = [] := by
      by_contra hsome
      simp [Layout.fractionChars, hsome] at hf
    obtain ⟨e, hsome⟩ := Option.isSome_iff_exists.mp (hl.marked hnone)
    simp [Layout.exponentChars, hsome] at he
  rw [number?_signChars negative (exists_chars_eq_cons hl rest) hwhole hne
    (fractionDigits_append l hl.fraction hexponent) (exponentDigits_append l hr), if_neg hmarked]
  show (Numeral.ofChars? (signChars negative ++ l.chars)).map _ = _
  rw [ofChars?_layout negative hl]
  rfl

/-- The text of a whole number is its sign and the digits of its amount. -/
theorem toList_intText (n : Int) :
    (toString n).toList = signChars (n < 0) ++ digits n.natAbs := by
  cases n with
  | ofNat m => exact toList_toString m
  | negSucc m =>
    have hsign : signChars (Int.negSucc m < 0) = ['-'] := by
      rw [signChars, if_pos (decide_eq_true (Int.negSucc_lt_zero m))]
    rw [hsign]
    show ("-" ++ (m + 1).repr).toList = '-' :: digits (m + 1)
    rw [String.toList_append]
    exact congrArg ('-' :: ·) (toList_toString (m + 1))

/-- A whole number is read from its text. -/
theorem number?_intText (n : Int) {rest : List Char} (hr : EndsNumber rest) :
    number? ((toString n).toList ++ rest) = some (int n, rest) := by
  have hstop : ∀ c ∈ rest.head?, c.isDigit = false := fun c hc => (hr c hc).1
  have hwhole := wholeDigits_append (isWhole_digits n.natAbs) hstop
  have hne := (isWhole_digits n.natAbs).isEmpty_eq_false
  have hbody : ∃ d r, digits n.natAbs ++ rest = d :: r ∧ d.isDigit = true := by
    obtain ⟨d, r, hd, hdigit⟩ := (isWhole_digits n.natAbs).exists_cons
    exact ⟨d, r ++ rest, by rw [hd]; rfl, hdigit⟩
  -- there is neither a fraction nor an exponent
  have hfraction : fractionDigits rest = ([], rest) :=
    fractionDigits_append ⟨[], [], none⟩ (by simp) fun c hc => ⟨(hr c hc).1, (hr c hc).2.1⟩
  have hexponent : exponentDigits rest = ([], rest) := exponentDigits_append ⟨[], [], none⟩ hr
  have hvalue : (if decide (n < 0) = true then -(n.natAbs : Int) else n.natAbs) = n := by
    split
    · rename_i hneg
      have hneg := of_decide_eq_true hneg
      omega
    · rename_i hneg
      rw [decide_eq_true_eq] at hneg
      omega
  rw [toList_intText, List.append_assoc,
    number?_signChars _ hbody hwhole hne hfraction hexponent, ofDigits_digits, hvalue]
  rfl

/-! ### Scalar values -/

/-- No word that is a value begins with the sign and the digits of a number. -/
theorem word?_signChars (negative : Bool) {body : List Char}
    (hbody : ∃ d r, body = d :: r ∧ d.isDigit = true) :
    word? (signChars negative ++ body) = none := by
  obtain ⟨d, r, rfl, hd⟩ := hbody
  have hne : ∀ c : Char, c.isDigit = false → (c == d) = false := by
    intro c hc
    rw [beq_eq_false_iff_ne]
    rintro rfl
    rw [hd] at hc
    exact Bool.noConfusion hc
  cases negative <;>
    simp [word?, words, signChars, List.isPrefixOf?, hne 'n', hne 't', hne 'f', hne 'N', hne 'I',
      hne '-']

/-- The text of a finite double is a sign and a layout. -/
theorem toList_realText (negative : Bool) {m e : Nat} (h : Canonical m e) :
    ((Binary64.finite negative m e h).text specialNames).toList
      = signChars negative ++ (Binary64.shortest negative m e h).layout.chars := by
  rw [Binary64.text, String.toList_append, Numeral.toList_text]
  cases negative <;> rfl

/-- A double is read from its text, also if it has no digits. -/
theorem readScalar_real (fits : Int → Bool) (x : Binary64) {rest : List Char}
    (hr : EndsNumber rest) :
    readScalar fits ((x.text specialNames).toList ++ rest) = .ok (real x, rest) := by
  cases x with
  | nan => rfl
  | infinite negative => cases negative <;> rfl
  | finite negative m e h =>
    obtain ⟨hdouble, hnegative⟩ := Binary64.shortest_spec negative h
    have hl := (Binary64.shortest negative m e h).layout_wellFormed
    have hvalue := (Binary64.shortest negative m e h).toBinary64_layout
    rw [hnegative, hdouble] at hvalue
    have hword := word?_signChars negative (exists_chars_eq_cons hl rest)
    rw [toList_realText, List.append_assoc, readScalar, hword, number?_layout negative hl hr,
      hvalue]

/-- A whole number that fits is read from its text. -/
theorem readScalar_int {fits : Int → Bool} {n : Int} (hn : fits n = true) {rest : List Char}
    (hr : EndsNumber rest) :
    readScalar fits ((toString n).toList ++ rest) = .ok (int n, rest) := by
  have hword : word? ((toString n).toList ++ rest) = none := by
    obtain ⟨d, r, hd, hdigit⟩ := (isWhole_digits n.natAbs).exists_cons
    rw [toList_intText, List.append_assoc]
    exact word?_signChars _ ⟨d, r ++ rest, by rw [hd]; rfl, hdigit⟩
  simp only [readScalar, hword, number?_intText n hr, hn, if_true]

end IndexSearch.Json
