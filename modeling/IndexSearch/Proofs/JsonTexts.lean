import IndexSearch.Json.Reader
import IndexSearch.Json.Writer
import Mathlib.Data.List.Basic

namespace IndexSearch.Json

open Text

/-!
# Reading texts back

A text between quotes is read as the text, in either style. Each character is written as one or two
pieces, a character or code units, and the pieces of all characters are joined to the text again.
What stands between the quotes may be anything: quotes and backslashes are escaped, and characters
beyond the first 65536 are written as two units where all is escaped.

* `hexUnit?_hexDigits` — four hexadecimal digits are read as the number that they are of;
* `standsFor_escaped` — what is written for a character is read as the character;
* `readText_quoted` — a text is read back.
-/

/-! ### Hexadecimal digits -/

/-- A hexadecimal digit has its value. -/
theorem hexValue?_digitChar {n : Nat} (h : n < 16) : hexValue? (Nat.digitChar n) = some n := by
  have hall : ∀ m : Fin 16, hexValue? (Nat.digitChar m) = some m.val := by decide
  exact hall ⟨n, h⟩

/-- A number below sixteen is one hexadecimal digit. -/
theorem hexDigits_one {n : Nat} (h : n < 16) : hexDigits 1 n = [Nat.digitChar n] := by
  rw [hexDigits, Nat.toDigits_of_lt_base h]
  rfl

/-- The last digit of a number is that of its remainder. -/
theorem hexDigits_succ {width : Nat} (hw : 0 < width) (n : Nat) :
    hexDigits (width + 1) n = hexDigits width (n / 16) ++ [Nat.digitChar (n % 16)] := by
  rcases Nat.lt_or_ge n 16 with hlt | hge
  · -- all digits before the last one are zeros that pad the number
    have hdiv : n / 16 = 0 := Nat.div_eq_of_lt hlt
    have hmod : n % 16 = n := Nat.mod_eq_of_lt hlt
    obtain ⟨w, rfl⟩ := Nat.exists_eq_succ_of_ne_zero (Nat.ne_of_gt hw)
    rw [hexDigits, hexDigits, hdiv, hmod, Nat.toDigits_of_lt_base hlt, Nat.toDigits_zero]
    simp [List.leftpad, List.replicate_succ']
  · rw [hexDigits, Nat.toDigits_of_base_le (by decide) hge, hexDigits]
    simp [List.leftpad]

/-- The four digits of a code unit are read as the unit. -/
theorem hexUnit?_hexDigits {n : Nat} (h : n < 0x10000) :
    ∃ a b c d, hexDigits 4 n = [a, b, c, d] ∧ hexUnit? a b c d = some n := by
  have hdigits : hexDigits 4 n = [Nat.digitChar (n / 16 / 16 / 16),
      Nat.digitChar (n / 16 / 16 % 16), Nat.digitChar (n / 16 % 16), Nat.digitChar (n % 16)] := by
    rw [hexDigits_succ (by decide), hexDigits_succ (by decide), hexDigits_succ (by decide),
      hexDigits_one (by omega)]
    rfl
  refine ⟨_, _, _, _, hdigits, ?_⟩
  have hvalue : ((n / 16 / 16 / 16 * 16 + n / 16 / 16 % 16) * 16 + n / 16 % 16) * 16 + n % 16
      = n := by
    omega
  rw [hexUnit?, hexValue?_digitChar (by omega), hexValue?_digitChar (by omega),
    hexValue?_digitChar (by omega), hexValue?_digitChar (by omega)]
  exact congrArg some hvalue

/-! ### Characters -/

/-- What is read of pieces comes before what is read of the rest. -/
def before (ps : List Piece) (r : Read (List Piece)) : Read (List Piece) :=
  r.map fun (qs, rest) => (ps ++ qs, rest)

/-- Pieces are put before those that are read. -/
theorem before_ok (ps qs : List Piece) (rest : List Char) :
    before ps (.ok (qs, rest)) = .ok (ps ++ qs, rest) := rfl

/-- Pieces are put before others at once or one after the other. -/
theorem before_before (ps qs : List Piece) (r : Read (List Piece)) :
    before ps (before qs r) = before (ps ++ qs) r := by
  cases r with
  | error e => rfl
  | ok x => simp [before, Except.map]

/-- An escape of one letter is read as the character that it stands for. -/
theorem pieces_letterEscape (start : Nat) {x c : Char} (h : letterEscape? x = some c)
    (tail : List Char) :
    pieces start ('\\' :: x :: tail) = before [.char c] (pieces start tail) := by
  -- one case for each letter; for all others `h` is absurd
  unfold letterEscape? at h
  split at h <;> simp only [Option.some.injEq, reduceCtorEq] at h
  all_goals
    rw [← h]
    simp [pieces, letterEscape?, before]

/-- A character without an escape is read as itself. -/
theorem pieces_verbatim (start : Nat) {c : Char} (hquote : c ≠ '"') (hbackslash : c ≠ '\\')
    (hcontrol : ¬ c.toNat < 0x20) (tail : List Char) :
    pieces start (c :: tail) = before [.char c] (pieces start tail) := by
  rw [pieces, if_neg hcontrol]
  · rfl
  · exact hquote
  · intro _ _ _ _ _ h
    exact absurd h hbackslash
  · intro _ h
    exact absurd h hbackslash
  · intro _ _ h
    exact absurd h hbackslash
  · intro h
    exact absurd h hbackslash

/-- The code units of a character. -/
def unitsOf (c : Char) : List Nat :=
  if c.toNat < 0x10000 then [c.toNat]
  else [0xD800 + (c.toNat - 0x10000) / 0x400, 0xDC00 + (c.toNat - 0x10000) % 0x400]

/-- A character is escaped by its code units. -/
theorem codeEscape_eq (c : Char) : codeEscape c = (unitsOf c).flatMap unitEscape := by
  simp only [codeEscape, unitsOf]
  split <;> simp

/-- A character is no surrogate and below the last code point. -/
theorem toNat_valid (c : Char) :
    c.toNat < 0xD800 ∨ (0xDFFF < c.toNat ∧ c.toNat < 0x110000) := c.valid

/-- Code units have sixteen bits. -/
theorem lt_of_mem_unitsOf {c : Char} {n : Nat} (h : n ∈ unitsOf c) : n < 0x10000 := by
  have hvalid := toNat_valid c
  unfold unitsOf at h
  split at h
  · rename_i hsmall
    rw [List.mem_singleton.mp h]
    exact hsmall
  · simp only [List.mem_cons, List.not_mem_nil, or_false] at h
    omega

/-- The escapes of code units are read as the units. -/
theorem pieces_unitEscapes (start : Nat) {ns : List Nat} (hns : ∀ n ∈ ns, n < 0x10000)
    {tail : List Char} (ht : tail ≠ []) :
    pieces start (ns.flatMap unitEscape ++ tail)
      = before (ns.map Piece.unit) (pieces start tail) := by
  induction ns with
  | nil =>
    show pieces start tail = before [] (pieces start tail)
    cases pieces start tail <;> rfl
  | cons n r ih =>
    obtain ⟨a, b, c, d, hdigits, hvalue⟩ := hexUnit?_hexDigits (hns n List.mem_cons_self)
    have hrest := ih fun m hm => hns m (List.mem_cons_of_mem n hm)
    -- an escape at the very end of a text is an error, but the closing quote is still to come
    have hnonempty : (r.flatMap unitEscape ++ tail).isEmpty = false :=
      List.isEmpty_eq_false_iff.mpr (List.append_ne_nil_of_right_ne_nil _ ht)
    rw [List.flatMap_cons, List.append_assoc, unitEscape, hdigits]
    simp only [List.cons_append, List.nil_append, pieces, hnonempty, Bool.false_eq_true, if_false,
      hvalue, hrest]
    exact before_before [.unit n] _ _

/-- The units of a character are joined to the character. -/
theorem joinPieces_unitsOf (c : Char) (qs : List Piece) :
    joinPieces ((unitsOf c).map Piece.unit ++ qs) = c :: joinPieces qs := by
  have hvalid := toNat_valid c
  unfold unitsOf
  split
  · -- a unit of its own, which is no half of a pair whatever follows it
    have hsurrogate : isSurrogate c.toNat = false := by
      simp only [isSurrogate, Bool.and_eq_false_iff, decide_eq_false_iff_not]
      omega
    have hpair : ∀ n, ¬ (0xD800 ≤ c.toNat && c.toNat < 0xDC00 && 0xDC00 ≤ n && n < 0xE000)
        = true := by
      intro n
      simp only [Bool.and_eq_true, decide_eq_true_eq]
      omega
    show joinPieces (.unit c.toNat :: qs) = _
    cases qs with
    | nil => simp [joinPieces, hsurrogate]
    | cons q r =>
      cases q with
      | char d => simp [joinPieces, hsurrogate]
      | unit n => rw [joinPieces, if_neg (hpair n), hsurrogate, if_neg (by decide),
          Char.ofNat_toNat]
  · -- two halves of a pair, from which the character is put together again
    have hpair : (0xD800 ≤ 0xD800 + (c.toNat - 0x10000) / 0x400
        && 0xD800 + (c.toNat - 0x10000) / 0x400 < 0xDC00
        && 0xDC00 ≤ 0xDC00 + (c.toNat - 0x10000) % 0x400
        && 0xDC00 + (c.toNat - 0x10000) % 0x400 < 0xE000) = true := by
      simp only [Bool.and_eq_true, decide_eq_true_eq]
      omega
    have hcode : 0x10000 + (0xD800 + (c.toNat - 0x10000) / 0x400 - 0xD800) * 0x400
        + (0xDC00 + (c.toNat - 0x10000) % 0x400 - 0xDC00) = c.toNat := by
      omega
    simp only [List.map_cons, List.map_nil, List.cons_append, List.nil_append, joinPieces,
      if_pos hpair, hcode, Char.ofNat_toNat]

/-- Characters inside quotes that stand for a character: they are read as pieces that are joined to
    it, whatever follows them. -/
def StandsFor (cs : List Char) (c : Char) : Prop :=
  ∃ ps, (∀ start tail, tail ≠ [] → pieces start (cs ++ tail) = before ps (pieces start tail))
    ∧ ∀ qs, joinPieces (ps ++ qs) = c :: joinPieces qs

/-- A backslash with a letter stands for the character that the letter names. -/
theorem standsFor_letterEscape {x c : Char} (h : letterEscape? x = some c) :
    StandsFor ['\\', x] c :=
  ⟨[.char c], fun start tail _ => pieces_letterEscape start h tail, fun _ => rfl⟩

/-- The escape of a character stands for it. -/
theorem standsFor_codeEscape (c : Char) : StandsFor (codeEscape c) c := by
  refine ⟨(unitsOf c).map Piece.unit, fun start tail ht => ?_, joinPieces_unitsOf c⟩
  rw [codeEscape_eq]
  exact pieces_unitEscapes start (fun _ => lt_of_mem_unitsOf) ht

/-- **What is written for a character stands for the character.** -/
theorem standsFor_escaped (style : Style) (c : Char) : StandsFor (escaped style c) c := by
  unfold escaped
  -- the characters that have an escape of one letter
  split
  · rename_i h; exact standsFor_letterEscape (by rw [h]; rfl)
  split
  · rename_i h; exact standsFor_letterEscape (by rw [h]; rfl)
  split
  · rename_i h; exact standsFor_letterEscape (by rw [h]; rfl)
  split
  · rename_i h; exact standsFor_letterEscape (by rw [h]; rfl)
  split
  · rename_i h; exact standsFor_letterEscape (by rw [h]; rfl)
  split
  · rename_i h
    have hc : c = '\x08' := by rw [← Char.ofNat_toNat c, h]
    exact standsFor_letterEscape (by rw [hc]; rfl)
  split
  · rename_i h
    have hc : c = '\x0c' := by rw [← Char.ofNat_toNat c, h]
    exact standsFor_letterEscape (by rw [hc]; rfl)
  split
  · exact standsFor_codeEscape c
  · -- neither a quote nor a backslash nor a control character
    rename_i hquote hbackslash _ _ _ _ _ hplain
    have hcontrol : ¬ c.toNat < 0x20 := by
      intro h
      exact hplain (by rw [decide_eq_true h, Bool.true_or])
    exact ⟨[.char c], fun start tail _ => pieces_verbatim start hquote hbackslash hcontrol tail,
      fun _ => rfl⟩

/-! ### Texts -/

/-- A text in quotes is read in pieces, and these make up the text. -/
theorem exists_pieces_text (style : Style) (start : Nat) (cs rest : List Char) :
    ∃ ps, pieces start (cs.flatMap (escaped style) ++ '"' :: rest) = .ok (ps, rest)
      ∧ joinPieces ps = cs := by
  induction cs with
  | nil => exact ⟨[], by simp [pieces], rfl⟩
  | cons c r ih =>
    obtain ⟨qs, hqs, hjoin⟩ := ih
    obtain ⟨ps, hps, hchar⟩ := standsFor_escaped style c
    refine ⟨ps ++ qs, ?_, ?_⟩
    · rw [List.flatMap_cons, List.append_assoc, hps _ _ (by simp), hqs, before_ok]
    · rw [hchar, hjoin]

/-- **A text is read back from between its quotes**, whatever follows the closing one. -/
theorem readText_quoted (style : Style) (s : String) (rest : List Char) :
    readText (s.toList.flatMap (escaped style) ++ '"' :: rest) = .ok (s, rest) := by
  obtain ⟨ps, hps, hjoin⟩ := exists_pieces_text style
    ((s.toList.flatMap (escaped style) ++ '"' :: rest).length + 1) s.toList rest
  rw [readText, hps]
  show Except.ok (String.ofList (joinPieces ps), rest) = _
  rw [hjoin, String.ofList_toList]

end IndexSearch.Json
