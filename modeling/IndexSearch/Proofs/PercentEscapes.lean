import IndexSearch.Proofs.Utf8Texts
import IndexSearch.Url.Percent
import Mathlib.Data.Bool.AllAny
import Mathlib.Data.List.Basic
import Mathlib.Data.List.Infix

namespace IndexSearch.Url

open Text

/-!
# Percent escapes

A part of a URL stands for bytes, and escaping the characters that may not stand in it does not
change for which. A text stands for its own bytes exactly if it has no escapes: an escape that is
there already is taken for one. Once a part is escaped, escaping it again changes nothing, so it
does not matter how often a URL is taken apart and put together.

* `HasEscape` — whether there is an escape in a text;
* `decodePart_of_not_hasEscape`, `length_decodePart_lt` — when a text stands for itself;
* `eq_of_decodePart_eq` — no part of a text stands for the text;
* `decodePart_encodePart` — escaping keeps what a text stands for;
* `encodePart_encodePart` — what is escaped stays as it is;
* `decodeForm_encodeForm` — the value of a query parameter is read back.
-/

/-! ### Escapes in a text -/

/-- Whether a text begins with an escape. -/
def startsEscape : List Char → Bool
  | '%' :: a :: b :: _ => isHex a && isHex b
  | _ => false

/-- Whether there is an escape in a text. -/
def HasEscape (cs : List Char) : Prop := ∃ t, t <:+ cs ∧ startsEscape t = true

instance (cs : List Char) : Decidable (HasEscape cs) :=
  decidable_of_iff (∃ t ∈ cs.tails, startsEscape t = true)
    (exists_congr fun _ => and_congr_left' (List.mem_tails _ _))

/-- A percent sign with two hexadecimal digits begins an escape. -/
theorem startsEscape_of_isHex {a b : Char} (ha : isHex a = true) (hb : isHex b = true)
    (r : List Char) : startsEscape ('%' :: a :: b :: r) = true := by
  rw [startsEscape, ha, hb]
  rfl

/-- Every escape is a percent sign with two hexadecimal digits. -/
theorem exists_of_startsEscape {cs : List Char} (h : startsEscape cs = true) :
    ∃ a b r, cs = '%' :: a :: b :: r ∧ isHex a = true ∧ isHex b = true := by
  unfold startsEscape at h
  split at h
  · rename_i a b r
    obtain ⟨ha, hb⟩ := Bool.and_eq_true_iff.mp h
    exact ⟨a, b, r, rfl, ha, hb⟩
  · cases h

/-- A text is empty, or begins with an escape, or with a character that is none. -/
theorem escape_induction {P : List Char → Prop} (nil : P [])
    (escape : ∀ a b r, isHex a = true → isHex b = true → P r → P ('%' :: a :: b :: r))
    (plain : ∀ c r, startsEscape (c :: r) = false → P r → P (c :: r)) (cs : List Char) : P cs := by
  induction hn : cs.length using Nat.strongRecOn generalizing cs with
  | ind n ih =>
    match cs with
    | [] => exact nil
    | c :: r =>
      cases hescape : startsEscape (c :: r) with
      | false => exact plain c r hescape (ih r.length (by simp [← hn]) r rfl)
      | true =>
        obtain ⟨a, b, r', heq, ha, hb⟩ := exists_of_startsEscape hescape
        rw [heq] at hn ⊢
        exact escape a b r' ha hb (ih r'.length (by simp [← hn]; omega) r' rfl)

/-- An escape begins with a percent sign. -/
theorem startsEscape_of_ne {c : Char} (h : c ≠ '%') (r : List Char) :
    startsEscape (c :: r) = false := by
  unfold startsEscape
  split
  · rename_i heq
    exact absurd (List.cons.inj heq).1 h
  · rfl

/-- Whether an escape begins a text shows in a front of it. -/
theorem startsEscape_of_append {c : Char} {s t : List Char}
    (h : startsEscape (c :: (s ++ t)) = false) : startsEscape (c :: s) = false := by
  by_contra hescape
  obtain ⟨a, b, r, heq, ha, hb⟩ := exists_of_startsEscape (Bool.not_eq_false _ ▸ hescape)
  obtain ⟨rfl, rfl⟩ := List.cons.inj heq
  rw [List.cons_append, List.cons_append, startsEscape, ha, hb] at h
  cases h

/-- There is no escape in nothing. -/
theorem not_hasEscape_nil : ¬ HasEscape [] := by
  rintro ⟨t, ht, h⟩
  rw [List.suffix_nil.mp ht] at h
  cases h

/-- A character that begins no escape leaves the question to what follows. -/
theorem hasEscape_cons_iff {c : Char} {r : List Char} (h : startsEscape (c :: r) = false) :
    HasEscape (c :: r) ↔ HasEscape r := by
  constructor
  · rintro ⟨t, ht, hescape⟩
    rcases List.suffix_cons_iff.mp ht with rfl | ht
    · rw [h] at hescape
      cases hescape
    · exact ⟨t, ht, hescape⟩
  · rintro ⟨t, ht, hescape⟩
    exact ⟨t, ht.trans (List.suffix_cons c r), hescape⟩

/-! ### What a part stands for -/

/-- An escape is decoded to its byte. -/
theorem decodePart_escape {a b : Char} (ha : isHex a = true) (hb : isHex b = true)
    (r : List Char) : decodePart ('%' :: a :: b :: r)
      = UInt8.ofNat (16 * hexValue a + hexValue b) :: decodePart r := by
  rw [decodePart, if_pos (by rw [ha, hb]; rfl)]

/-- Any other character is decoded to its bytes. -/
theorem decodePart_plain {c : Char} {r : List Char} (h : startsEscape (c :: r) = false) :
    decodePart (c :: r) = String.utf8EncodeChar c ++ decodePart r := by
  by_cases hc : c = '%'
  · subst hc
    match r with
    | [] => rfl
    | [a] => rfl
    | a :: b :: r =>
      rw [startsEscape] at h
      rw [decodePart, if_neg (by rw [h]; exact Bool.false_ne_true)]
  · rw [decodePart]
    exact fun _ _ _ heq _ => hc heq

/-- An escape that is there is left as it is. -/
theorem encodePart_escape {a b : Char} (safe : Char → Bool) (ha : isHex a = true)
    (hb : isHex b = true) (r : List Char) :
    encodePart safe ('%' :: a :: b :: r) = '%' :: a :: b :: encodePart safe r := by
  rw [encodePart, if_pos (by rw [ha, hb]; rfl)]

/-- Any other character is escaped unless it is safe. -/
theorem encodePart_plain (safe : Char → Bool) {c : Char} {r : List Char}
    (h : startsEscape (c :: r) = false) : encodePart safe (c :: r)
      = (if safe c then [c] else escapeChar c) ++ encodePart safe r := by
  -- a sign that begins no escape is written as any other character
  by_cases hc : c = '%'
  · subst hc
    match r with
    | [] | [_] =>
      rw [encodePart]
      · split <;> rfl
      · exact fun _ _ _ _ h => by cases h
    | a :: b :: r =>
      rw [startsEscape] at h
      rw [encodePart, if_neg (by rw [h]; exact Bool.false_ne_true)]
      split <;> rfl
  · rw [encodePart]
    · split <;> rfl
    · exact fun _ _ _ heq _ => hc heq

/-! ### Escaped bytes -/

/-- Hexadecimal digits are recognised. -/
theorem isHex_hexDigit {n : Nat} (hn : n < 16) : isHex (hexDigit n) = true := by
  have hall : ∀ n < 16, isHex (hexDigit n) = true := by decide
  exact hall n hn

/-- Hexadecimal digits have their value. -/
theorem hexValue_hexDigit {n : Nat} (hn : n < 16) : hexValue (hexDigit n) = n := by
  have hall : ∀ n < 16, hexValue (hexDigit n) = n := by decide
  exact hall n hn

/-- A byte is escaped with hexadecimal digits. -/
theorem isHex_escapeByte (b : UInt8) : isHex (hexDigit (b.toNat / 16)) = true
    ∧ isHex (hexDigit (b.toNat % 16)) = true := by
  have hb := b.toNat_lt
  exact ⟨isHex_hexDigit (by omega), isHex_hexDigit (by omega)⟩

/-- The escapes of bytes stand for the bytes. -/
theorem decodePart_escapeByte (bs : List UInt8) (r : List Char) :
    decodePart (bs.flatMap escapeByte ++ r) = bs ++ decodePart r := by
  induction bs with
  | nil => rfl
  | cons b bs ih =>
    obtain ⟨hhigh, hlow⟩ := isHex_escapeByte b
    have hb := b.toNat_lt
    have hvalue : UInt8.ofNat (16 * hexValue (hexDigit (b.toNat / 16))
        + hexValue (hexDigit (b.toNat % 16))) = b := by
      rw [hexValue_hexDigit (by omega), hexValue_hexDigit (by omega), Nat.div_add_mod,
        UInt8.ofNat_toNat]
    rw [List.flatMap_cons, escapeByte, List.append_assoc]
    show decodePart ('%' :: _ :: _ :: (bs.flatMap escapeByte ++ r)) = b :: (bs ++ decodePart r)
    rw [decodePart_escape hhigh hlow, hvalue, ih]

/-- The escapes of bytes are kept. -/
theorem encodePart_escapeByte (safe : Char → Bool) (bs : List UInt8) (r : List Char) :
    encodePart safe (bs.flatMap escapeByte ++ r)
      = bs.flatMap escapeByte ++ encodePart safe r := by
  induction bs with
  | nil => rfl
  | cons b bs ih =>
    obtain ⟨hhigh, hlow⟩ := isHex_escapeByte b
    rw [List.flatMap_cons, escapeByte, List.append_assoc]
    show encodePart safe ('%' :: _ :: _ :: (bs.flatMap escapeByte ++ r)) = _
    rw [encodePart_escape safe hhigh hlow, ih]
    rfl

/-- An escaped character begins with a percent sign. -/
theorem exists_escapeChar_eq_cons (c : Char) : ∃ t, escapeChar c = '%' :: t := by
  obtain ⟨b, bs, hb⟩ := List.exists_cons_of_ne_nil (String.utf8EncodeChar_ne_nil (c := c))
  rw [escapeChar, hb]
  exact ⟨_, rfl⟩

/-! ### Escaping -/

/-- A hexadecimal digit in front was there before. -/
theorem exists_of_encodePart_eq_cons {safe : Char → Bool} {cs t : List Char} {d : Char}
    (hd : isHex d = true) (h : encodePart safe cs = d :: t) :
    ∃ r, cs = d :: r ∧ encodePart safe r = t := by
  -- an escape begins with the sign, which is no digit, so the first character is one that is kept
  have hsign : '%' ≠ d := by
    rintro rfl
    cases hd
  cases cs with
  | nil => cases h
  | cons c r =>
    cases hescape : startsEscape (c :: r) with
    | true =>
      obtain ⟨a, b, r', heq, ha, hb⟩ := exists_of_startsEscape hescape
      rw [heq, encodePart_escape safe ha hb] at h
      exact absurd (List.cons.inj h).1 hsign
    | false =>
      rw [encodePart_plain safe hescape] at h
      split at h
      · obtain ⟨rfl, ht⟩ := List.cons.inj h
        exact ⟨r, rfl, ht⟩
      · obtain ⟨u, hu⟩ := exists_escapeChar_eq_cons c
        rw [hu] at h
        exact absurd (List.cons.inj h).1 hsign

/-- No escape comes into being before what is escaped. -/
theorem startsEscape_cons_encodePart {safe : Char → Bool} {c : Char} {r : List Char}
    (h : startsEscape (c :: r) = false) : startsEscape (c :: encodePart safe r) = false := by
  by_contra hescape
  obtain ⟨a, b, t, heq, ha, hb⟩ := exists_of_startsEscape (Bool.not_eq_false _ ▸ hescape)
  obtain ⟨rfl, htail⟩ := List.cons.inj heq
  obtain ⟨r', rfl, hr'⟩ := exists_of_encodePart_eq_cons ha htail
  obtain ⟨r'', rfl, -⟩ := exists_of_encodePart_eq_cons hb hr'
  rw [startsEscape, ha, hb] at h
  cases h

/-- **Escaping does not change what a part stands for.** -/
theorem decodePart_encodePart (safe : Char → Bool) (cs : List Char) :
    decodePart (encodePart safe cs) = decodePart cs := by
  induction cs using escape_induction with
  | nil => rfl
  | escape a b r ha hb ih =>
    rw [encodePart_escape safe ha hb, decodePart_escape ha hb, decodePart_escape ha hb, ih]
  | plain c r hc ih =>
    rw [encodePart_plain safe hc, decodePart_plain hc]
    split
    · rw [List.singleton_append, decodePart_plain (startsEscape_cons_encodePart hc), ih]
    · rw [escapeChar, decodePart_escapeByte, ih]

/-- **What is escaped is not escaped again.** -/
theorem encodePart_encodePart (safe : Char → Bool) (cs : List Char) :
    encodePart safe (encodePart safe cs) = encodePart safe cs := by
  induction cs using escape_induction with
  | nil => rfl
  | escape a b r ha hb ih =>
    rw [encodePart_escape safe ha hb, encodePart_escape safe ha hb, ih]
  | plain c r hc ih =>
    rw [encodePart_plain safe hc]
    split
    · rename_i hsafe
      rw [List.singleton_append, encodePart_plain safe (startsEscape_cons_encodePart hc), hsafe,
        if_pos rfl, ih]
      rfl
    · rw [escapeChar, encodePart_escapeByte, ih]

/-! ### Texts that stand for themselves -/

/-- A text without escapes stands for its own bytes. -/
theorem decodePart_of_not_hasEscape {cs : List Char} (h : ¬ HasEscape cs) :
    decodePart cs = Utf8.encode cs := by
  induction cs using escape_induction with
  | nil => rfl
  | escape a b r ha hb ih =>
    exact absurd ⟨_, List.suffix_rfl, startsEscape_of_isHex ha hb r⟩ h
  | plain c r hc ih =>
    rw [decodePart_plain hc, ih (mt (hasEscape_cons_iff hc).mpr h)]
    rfl

/-- Decoding does not make a text longer. -/
theorem length_decodePart_le (cs : List Char) :
    (decodePart cs).length ≤ (Utf8.encode cs).length := by
  -- an escape stands for one byte and takes three, any other character for its own bytes
  induction cs using escape_induction with
  | nil => exact Nat.le_refl _
  | escape a b r ha hb ih =>
    have hencode : Utf8.encode ('%' :: a :: b :: r)
        = 37 :: (Utf8.encode [a, b] ++ Utf8.encode r) := by
      rw [← Utf8.encode_append]
      rfl
    rw [decodePart_escape ha hb, hencode, List.length_cons, List.length_cons, List.length_append]
    omega
  | plain c r hc ih =>
    show _ ≤ (String.utf8EncodeChar c ++ Utf8.encode r).length
    rw [decodePart_plain hc, List.length_append, List.length_append]
    exact Nat.add_le_add_left ih _

/-- A text with an escape stands for fewer bytes than it has. -/
theorem length_decodePart_lt {cs : List Char} (h : HasEscape cs) :
    (decodePart cs).length < (Utf8.encode cs).length := by
  -- the escape that is there makes the difference, wherever it stands
  induction cs using escape_induction with
  | nil => exact absurd h not_hasEscape_nil
  | escape a b r ha hb ih =>
    have hle := length_decodePart_le r
    have hencode : Utf8.encode ('%' :: a :: b :: r)
        = 37 :: (Utf8.encode [a, b] ++ Utf8.encode r) := by
      rw [← Utf8.encode_append]
      rfl
    have hhex : 0 < (Utf8.encode [a, b]).length := by
      rw [List.length_pos_iff]
      exact fun h => String.utf8EncodeChar_ne_nil (List.append_eq_nil_iff.mp h).1
    rw [decodePart_escape ha hb, hencode, List.length_cons, List.length_cons, List.length_append]
    omega
  | plain c r hc ih =>
    show _ < (String.utf8EncodeChar c ++ Utf8.encode r).length
    rw [decodePart_plain hc, List.length_append, List.length_append]
    exact Nat.add_lt_add_left (ih ((hasEscape_cons_iff hc).mp h)) _

/-- **A part of a text stands for the text only if it is all of it**, and has no escapes. -/
theorem eq_of_decodePart_eq {s cs : List Char} (hpart : s <:+: cs)
    (h : decodePart s = Utf8.encode cs) : s = cs ∧ ¬ HasEscape s := by
  obtain ⟨front, back, rfl⟩ := hpart
  have hlength := congrArg List.length h
  rw [Utf8.encode_append, Utf8.encode_append, List.length_append, List.length_append] at hlength
  have hle := length_decodePart_le s
  have hfront : front = [] :=
    Utf8.encode_inj.mp (List.eq_nil_of_length_eq_zero (l := Utf8.encode front) (by omega))
  have hback : back = [] :=
    Utf8.encode_inj.mp (List.eq_nil_of_length_eq_zero (l := Utf8.encode back) (by omega))
  refine ⟨by rw [hfront, hback, List.nil_append, List.append_nil], fun hescape => ?_⟩
  have hlt := length_decodePart_lt hescape
  omega

/-! ### What stands in an escaped part -/

/-- All that is needed for an escape are the percent sign and hexadecimal digits. -/
theorem eq_or_isHex_of_mem_escapeChar {c d : Char} (h : d ∈ escapeChar c) :
    d = '%' ∨ isHex d = true := by
  obtain ⟨b, -, hd⟩ := List.mem_flatMap.mp h
  obtain ⟨hhigh, hlow⟩ := isHex_escapeByte b
  simp only [escapeByte, List.mem_cons, List.not_mem_nil, or_false] at hd
  rcases hd with rfl | rfl | rfl
  · exact .inl rfl
  · exact .inr hhigh
  · exact .inr hlow

/-- A character that may not stand in a part does not stand in it. -/
theorem notMem_encodePart {safe : Char → Bool} {d : Char} (hsafe : safe d = false)
    (hsign : d ≠ '%') (hhex : isHex d = false) (cs : List Char) : d ∉ encodePart safe cs := by
  -- what is written are the safe characters, the sign and digits
  induction cs using escape_induction with
  | nil => exact List.not_mem_nil
  | escape a b r ha hb ih =>
    have hda : d ≠ a := by
      rintro rfl
      rw [ha] at hhex
      cases hhex
    have hdb : d ≠ b := by
      rintro rfl
      rw [hb] at hhex
      cases hhex
    rw [encodePart_escape safe ha hb]
    simp only [List.mem_cons, not_or]
    exact ⟨hsign, hda, hdb, ih⟩
  | plain c r hc ih =>
    rw [encodePart_plain safe hc, List.mem_append, not_or]
    refine ⟨?_, ih⟩
    split
    · rename_i hsafe'
      rw [List.mem_singleton]
      rintro rfl
      rw [hsafe] at hsafe'
      cases hsafe'
    · intro hmem
      rcases eq_or_isHex_of_mem_escapeChar hmem with rfl | hhex'
      · exact hsign rfl
      · rw [hhex] at hhex'
        cases hhex'

/-- Characters that may stand in a part are kept in front. -/
theorem encodePart_append {safe : Char → Bool} {a : List Char}
    (ha : ∀ c ∈ a, safe c = true ∧ c ≠ '%') (r : List Char) :
    encodePart safe (a ++ r) = a ++ encodePart safe r := by
  induction a with
  | nil => rfl
  | cons c a ih =>
    obtain ⟨⟨hsafe, hsign⟩, htail⟩ := List.forall_mem_cons.mp ha
    rw [List.cons_append, encodePart_plain safe (startsEscape_of_ne hsign _), if_pos hsafe,
      ih htail]
    rfl

/-- If there is no percent sign in a part, nothing was escaped. -/
theorem encodePart_eq_self {safe : Char → Bool} {cs : List Char}
    (h : '%' ∉ encodePart safe cs) : encodePart safe cs = cs := by
  -- without a sign in what is written nothing was escaped
  induction cs using escape_induction with
  | nil => rfl
  | escape a b r ha hb ih =>
    rw [encodePart_escape safe ha hb] at h
    exact absurd List.mem_cons_self h
  | plain c r hc ih =>
    rw [encodePart_plain safe hc] at h ⊢
    rw [List.mem_append, not_or] at h
    rw [ih h.2]
    split
    · rfl
    · rename_i hsafe
      obtain ⟨t, ht⟩ := exists_escapeChar_eq_cons c
      rw [if_neg hsafe, ht] at h
      exact absurd List.mem_cons_self h.1

/-! ### Query parameters -/

/-- The bytes that the name or value of a query parameter stands for. -/
def decodeForm (cs : List Char) : List UInt8 :=
  decodePart (cs.map fun c => if c = '+' then ' ' else c)

/-- Unreserved characters have no meaning in a query. -/
theorem ne_of_isUnreserved {c : Char} (h : isUnreserved c = true) :
    c ≠ '%' ∧ c ≠ '+' ∧ c ≠ '&' := by
  refine ⟨?_, ?_, ?_⟩ <;> (rintro rfl; revert h; decide)

/-- **The value of a query parameter is read back**, byte by byte. -/
theorem decodeForm_encodeForm (cs : List Char) : decodeForm (encodeForm cs) = Utf8.encode cs := by
  induction cs with
  | nil => rfl
  | cons c r ih =>
    rw [decodeForm] at ih ⊢
    rw [encodeForm, List.flatMap_cons, List.map_append, ← encodeForm]
    show _ = String.utf8EncodeChar c ++ Utf8.encode r
    rw [← ih]
    -- a blank is written as a plus, and a plus itself is escaped
    split
    · rename_i hblank
      subst hblank
      exact decodePart_plain (startsEscape_of_ne (by decide) _)
    · split
      · rename_i hc
        obtain ⟨hsign, hplus, -⟩ := ne_of_isUnreserved hc
        rw [List.map_singleton, if_neg hplus]
        exact decodePart_plain (startsEscape_of_ne hsign _)
      · have hkept : (escapeChar c).map (fun d => if d = '+' then ' ' else d) = escapeChar c := by
          rw [← List.map_id (escapeChar c), List.map_map]
          apply List.map_congr_left
          intro d hd
          apply if_neg
          rintro rfl
          rcases eq_or_isHex_of_mem_escapeChar hd with h | h
          · cases h
          · exact absurd h (by decide)
        rw [hkept, escapeChar, decodePart_escapeByte]

/-- No parameter ends in the value of one. -/
theorem and_notMem_encodeForm (cs : List Char) : '&' ∉ encodeForm cs := by
  intro h
  obtain ⟨c, -, hmem⟩ := List.mem_flatMap.mp h
  split at hmem
  · exact absurd hmem (by decide)
  · split at hmem
    · rename_i hc
      rw [List.mem_singleton] at hmem
      exact (ne_of_isUnreserved hc).2.2 hmem.symm
    · rcases eq_or_isHex_of_mem_escapeChar hmem with h | h
      · cases h
      · exact absurd h (by decide)

/-- Letters and digits are printable. -/
theorem toNat_of_isAlphanum {c : Char} (h : c.isAlphanum = true) :
    0x20 ≤ c.toNat ∧ c.toNat < 0x7F := by
  have hparts : (c.isUpper || c.isLower || c.isDigit) = true := h
  rw [Bool.or_eq_true, Bool.or_eq_true] at hparts
  rcases hparts with (hupper | hlower) | hdigit
  · obtain ⟨hfirst, hlast⟩ := of_decide_eq_true hupper
    exact ⟨Nat.le_trans (by decide) hfirst, Nat.lt_of_le_of_lt hlast (by decide)⟩
  · obtain ⟨hfirst, hlast⟩ := Bool.and_eq_true_iff.mp hlower
    exact ⟨Nat.le_trans (by decide) (of_decide_eq_true hfirst),
      Nat.lt_of_le_of_lt (of_decide_eq_true hlast) (by decide)⟩
  · obtain ⟨hfirst, hlast⟩ := Bool.and_eq_true_iff.mp hdigit
    exact ⟨Nat.le_trans (by decide) (of_decide_eq_true hfirst),
      Nat.lt_of_le_of_lt (of_decide_eq_true hlast) (by decide)⟩

/-- Unreserved characters are safe in a query. -/
theorem querySafe_of_isUnreserved {c : Char} (h : isUnreserved c = true) :
    querySafe c = true := by
  have hrange : 0x20 ≤ c.toNat ∧ c.toNat < 0x7F := by
    simp only [isUnreserved, Bool.or_eq_true, decide_eq_true_eq] at h
    rcases h with (((h | rfl) | rfl) | rfl) | rfl
    · exact toNat_of_isAlphanum h
    all_goals decide
  have hsign : c ∉ [' ', '"', '#', '<', '>'] := by
    intro hc
    have hall : ∀ d ∈ [' ', '"', '#', '<', '>'], isUnreserved d = false :=
      List.all_iff_forall_prop.mp (by decide)
    rw [hall c hc] at h
    cases h
  simp [querySafe, asciiExcept, hrange, hsign]

/-- The value of a query parameter stands in a query as it is. -/
theorem encodePart_encodeForm (cs : List Char) :
    encodePart querySafe (encodeForm cs) = encodeForm cs := by
  induction cs with
  | nil => rfl
  | cons c r ih =>
    rw [encodeForm, List.flatMap_cons, ← encodeForm]
    -- a plus, an unreserved character and an escape are all left as they are
    split
    · rw [encodePart_append (List.all_iff_forall_prop.mp (by decide)), ih]
    · split
      · rename_i hc
        have hsafe : ∀ d ∈ [c], querySafe d = true ∧ d ≠ '%' := by
          rintro d hd
          rw [List.mem_singleton.mp hd]
          exact ⟨querySafe_of_isUnreserved hc, (ne_of_isUnreserved hc).1⟩
        rw [encodePart_append hsafe, ih]
      · rw [escapeChar, encodePart_escapeByte, ih]

end IndexSearch.Url
