import IndexSearch.Proofs.Outcomes
import IndexSearch.Text.Decoding
import Mathlib.Data.List.Basic
import Mathlib.Data.List.TakeWhile

namespace IndexSearch.Text

/-!
# Bytes in UTF-8 are those of one text

The decoder takes the bytes of a character off the front and looks at them one by one: the first one
gives their number, the second one is restricted after some first ones, and the others only have to
continue the character. What it accepts in this way is exactly what the encoder writes, so that
bytes are decoded exactly if they are the bytes of a text, and then to that text.

* `Utf8.GoodTail` — which bytes may follow the first one of a character;
* `Utf8.step_eq_ok_iff` — one character is read from its bytes and from no others;
* `decodeUtf8?_eq_some_iff` — the text of bytes is the text with these bytes.
-/

namespace Utf8

/-! ### Bytes as numbers -/

/-- A byte that continues a character lies between 128 and 191. -/
theorem isContinuation_iff {b : UInt8} :
    isContinuation b = true ↔ 128 ≤ b.toNat ∧ b.toNat < 192 := by
  simp [isContinuation, UInt8.le_iff_toNat_le, UInt8.lt_iff_toNat_lt]

/-- A second byte continues a character, and after four first bytes it is restricted further. -/
theorem isSecond_iff {lead b : UInt8} : isSecond lead b = true ↔
    (128 ≤ b.toNat ∧ b.toNat < 192) ∧ (lead.toNat = 224 → 160 ≤ b.toNat)
      ∧ (lead.toNat = 237 → b.toNat < 160) ∧ (lead.toNat = 240 → 144 ≤ b.toNat)
      ∧ (lead.toNat = 244 → b.toNat < 144) := by
  simp only [isSecond, Bool.and_eq_true, isContinuation_iff, Bool.not_eq_true',
    Bool.and_eq_false_imp, beq_iff_eq, decide_eq_false_iff_not, UInt8.le_iff_toNat_le,
    UInt8.lt_iff_toNat_lt, ← UInt8.toNat_inj, UInt8.toNat_ofNat, Nat.reducePow, Nat.reduceMod]
  omega

/-- The first byte tells how many bytes a character has. -/
theorem width?_eq_some_iff {lead : UInt8} {width : Nat} : width? lead = some width ↔
    (lead.toNat < 128 ∧ width = 1) ∨ (194 ≤ lead.toNat ∧ lead.toNat < 224 ∧ width = 2)
      ∨ (224 ≤ lead.toNat ∧ lead.toNat < 240 ∧ width = 3)
      ∨ (240 ≤ lead.toNat ∧ lead.toNat < 245 ∧ width = 4) := by
  simp only [width?, UInt8.lt_iff_toNat_lt, UInt8.toNat_ofNat, Nat.reducePow, Nat.reduceMod]
  split_ifs <;> simp only [Option.some.injEq, false_iff] <;> omega

/-! ### Bytes after the first one -/

/-- Whether bytes may follow the first one of a character: the second byte of the character may, and
    the others continue it. -/
def GoodTail (lead : UInt8) : List UInt8 → Prop
  | [] => True
  | b :: r => isSecond lead b = true ∧ ∀ c ∈ r, isContinuation c = true

/-- As many bytes as there should be are good exactly if all of them are there and good. -/
theorem goodCount_eq_iff {lead : UInt8} {count : Nat} {bs : List UInt8}
    (hlength : bs.length ≤ count) :
    goodCount lead count bs = count ↔ bs.length = count ∧ GoodTail lead bs := by
  -- the second byte has a range of its own, and those after it have one in common
  cases bs with
  | nil => simp [goodCount, GoodTail, eq_comm]
  | cons b r =>
    rw [List.length_cons] at hlength
    have htake : r.take (count - 1) = r := List.take_of_length_le (by omega)
    have hall : (r.takeWhile isContinuation).length ≤ r.length :=
      (List.takeWhile_prefix _).length_le
    simp only [goodCount, GoodTail, htake, List.length_cons]
    by_cases hb : isSecond lead b = true
    · rw [if_pos hb]
      constructor
      · intro h
        have hwhole : r.takeWhile isContinuation = r :=
          (List.takeWhile_prefix _).eq_of_length (by omega)
        exact ⟨by omega, hb, List.takeWhile_eq_self_iff.mp hwhole⟩
      · rintro ⟨hcount, -, hr⟩
        rw [List.takeWhile_eq_self_iff.mpr hr]
        omega
    · rw [if_neg hb]
      exact iff_of_false (by omega) (fun h => hb h.2.1)

/-- A character is read exactly if its first byte is followed by as many good bytes as it asks
    for. -/
theorem step_eq_ok {lead : UInt8} {more : List UInt8} {c : Char} {n : Nat} :
    step false lead more = .ok (c, n) ↔ ∃ tail rest, more = tail ++ rest
      ∧ width? lead = some n ∧ tail.length = n - 1 ∧ GoodTail lead tail
      ∧ c = Char.ofNat (codePoint n lead tail) := by
  unfold step
  cases hwidth : width? lead with
  | none => simp
  | some width =>
    have hlength : (more.take (width - 1)).length ≤ width - 1 := List.length_take_le _ _
    -- all that is read is good where every byte behind the first is
    have hgood : (if width = 1 then 0 else goodCount lead (width - 1) (more.take (width - 1)))
        = width - 1 ↔ (more.take (width - 1)).length = width - 1
          ∧ GoodTail lead (more.take (width - 1)) := by
      by_cases hone : width = 1
      · simp [hone, GoodTail]
      · rw [if_neg hone, goodCount_eq_iff hlength]
    simp only [Bool.false_and, Bool.false_eq_true, if_false]
    generalize (if width = 1 then 0 else goodCount lead (width - 1) (more.take (width - 1)))
      = good at hgood ⊢
    constructor
    · intro h
      split at h
      · rename_i hwhole
        obtain ⟨rfl, rfl⟩ := Prod.mk.inj (Except.ok.inj h)
        obtain ⟨htail, hall⟩ := hgood.mp hwhole
        exact ⟨_, _, (List.take_append_drop _ _).symm, rfl, htail, hall, rfl⟩
      · split at h <;> cases h
    · rintro ⟨tail, rest, rfl, hn, htail, hall, rfl⟩
      obtain rfl := Option.some.inj hn
      rw [List.take_left' htail] at hgood ⊢
      rw [if_pos (hgood.mpr ⟨htail, hall⟩)]

/-! ### Characters -/

/-- The bytes of the character with a given number. -/
theorem utf8EncodeChar_ofNat {n : Nat} (hn : n.isValidChar) :
    String.utf8EncodeChar (Char.ofNat n) =
      if n ≤ 127 then [UInt8.ofNat n]
      else if n ≤ 2047 then [UInt8.ofNat (n / 64 % 32 + 192), UInt8.ofNat (n % 64 + 128)]
      else if n ≤ 65535 then [UInt8.ofNat (n / 4096 % 16 + 224), UInt8.ofNat (n / 64 % 64 + 128),
        UInt8.ofNat (n % 64 + 128)]
      else [UInt8.ofNat (n / 262144 % 8 + 240), UInt8.ofNat (n / 4096 % 64 + 128),
        UInt8.ofNat (n / 64 % 64 + 128), UInt8.ofNat (n % 64 + 128)] := by
  have hval : (Char.ofNat n).val.toNat = n := by
    rw [Char.ofNat, dif_pos hn]
    rfl
  simp only [String.utf8EncodeChar, hval]

/-- A byte is determined by its number. -/
theorem ofNat_eq_iff {n : Nat} {b : UInt8} (hn : n < 256) : UInt8.ofNat n = b ↔ n = b.toNat := by
  rw [← UInt8.toNat_inj, UInt8.toNat_ofNat_of_lt' hn]

/-! The number of a character is put together from the payloads of its bytes. -/

section Payloads

variable (lead a b c : UInt8)

/-- The number of a character of one byte. -/
theorem codePoint_one : codePoint 1 lead [] = lead.toNat := rfl

/-- The number of a character of two bytes. -/
theorem codePoint_two : codePoint 2 lead [a] = 64 * (lead.toNat % 32) + a.toNat % 64 := rfl

/-- The number of a character of three bytes. -/
theorem codePoint_three : codePoint 3 lead [a, b] =
    64 * (64 * (lead.toNat % 16) + a.toNat % 64) + b.toNat % 64 := rfl

/-- The number of a character of four bytes. -/
theorem codePoint_four : codePoint 4 lead [a, b, c] =
    64 * (64 * (64 * (lead.toNat % 8) + a.toNat % 64) + b.toNat % 64) + c.toNat % 64 := rfl

end Payloads

/-- What a first byte and good bytes after it denote is a character with just these bytes. -/
theorem encode_of_good {lead : UInt8} {tail : List UInt8} {n : Nat}
    (hwidth : width? lead = some n) (hlength : tail.length = n - 1) (hgood : GoodTail lead tail) :
    String.utf8EncodeChar (Char.ofNat (codePoint n lead tail)) = lead :: tail := by
  have hlead := lead.toNat_lt
  -- in each width the number is put together from the payloads, and taken apart into the same ones
  rcases width?_eq_some_iff.mp hwidth with ⟨hl, rfl⟩ | ⟨hl, hl', rfl⟩ | ⟨hl, hl', rfl⟩
    | ⟨hl, hl', rfl⟩
  · obtain rfl := List.length_eq_zero_iff.mp hlength
    rw [codePoint_one, utf8EncodeChar_ofNat (.inl (by omega)), if_pos (by omega),
      (ofNat_eq_iff hlead).mpr rfl]
  · obtain ⟨a, rfl⟩ := List.length_eq_one_iff.mp hlength
    obtain ⟨ha, -⟩ := isSecond_iff.mp hgood.1
    rw [codePoint_two]
    generalize hn : 64 * (lead.toNat % 32) + a.toNat % 64 = n
    rw [utf8EncodeChar_ofNat (.inl (by omega)), if_neg (by omega), if_pos (by omega),
      (ofNat_eq_iff (by omega)).mpr (show n / 64 % 32 + 192 = lead.toNat by omega),
      (ofNat_eq_iff (by omega)).mpr (show n % 64 + 128 = a.toNat by omega)]
  · obtain ⟨a, b, rfl⟩ := List.length_eq_two.mp hlength
    obtain ⟨ha, hoverlong, hsurrogate, -⟩ := isSecond_iff.mp hgood.1
    have hb := isContinuation_iff.mp (hgood.2 b List.mem_cons_self)
    rw [codePoint_three]
    generalize hn : 64 * (64 * (lead.toNat % 16) + a.toNat % 64) + b.toNat % 64 = n
    rw [utf8EncodeChar_ofNat (by unfold Nat.isValidChar; omega), if_neg (by omega),
      if_neg (by omega), if_pos (by omega),
      (ofNat_eq_iff (by omega)).mpr (show n / 4096 % 16 + 224 = lead.toNat by omega),
      (ofNat_eq_iff (by omega)).mpr (show n / 64 % 64 + 128 = a.toNat by omega),
      (ofNat_eq_iff (by omega)).mpr (show n % 64 + 128 = b.toNat by omega)]
  · obtain ⟨a, b, c, rfl⟩ := List.length_eq_three.mp hlength
    obtain ⟨ha, -, -, hoverlong, hlast⟩ := isSecond_iff.mp hgood.1
    have hb := isContinuation_iff.mp (hgood.2 b List.mem_cons_self)
    have hc := isContinuation_iff.mp (hgood.2 c (List.mem_cons_of_mem b List.mem_cons_self))
    rw [codePoint_four]
    generalize hn : 64 * (64 * (64 * (lead.toNat % 8) + a.toNat % 64) + b.toNat % 64)
      + c.toNat % 64 = n
    rw [utf8EncodeChar_ofNat (.inr (by omega)), if_neg (by omega), if_neg (by omega),
      if_neg (by omega),
      (ofNat_eq_iff (by omega)).mpr (show n / 262144 % 8 + 240 = lead.toNat by omega),
      (ofNat_eq_iff (by omega)).mpr (show n / 4096 % 64 + 128 = a.toNat by omega),
      (ofNat_eq_iff (by omega)).mpr (show n / 64 % 64 + 128 = b.toNat by omega),
      (ofNat_eq_iff (by omega)).mpr (show n % 64 + 128 = c.toNat by omega)]

/-- The bytes of a character are a first byte and good bytes after it, which denote it. -/
theorem good_of_encode {c : Char} {lead : UInt8} {tail : List UInt8}
    (h : String.utf8EncodeChar c = lead :: tail) :
    width? lead = some (tail.length + 1) ∧ GoodTail lead tail
      ∧ c = Char.ofNat (codePoint (tail.length + 1) lead tail) := by
  have hvalid : c.toNat < 0xD800 ∨ (0xDFFF < c.toNat ∧ c.toNat < 0x110000) := c.valid
  have hc : Char.ofNat c.toNat = c := c.ofNat_toNat
  rw [← hc, utf8EncodeChar_ofNat hvalid] at h
  generalize c.toNat = n at h hvalid hc
  have hbyte : ∀ k, k < 256 → (UInt8.ofNat k).toNat = k := fun k hk => UInt8.toNat_ofNat_of_lt' hk
  -- the bounds of each width exclude overlong forms, and the validity of the number surrogates
  split at h
  · obtain ⟨rfl, rfl⟩ := List.cons.inj h
    have hlead := hbyte n (by omega)
    refine ⟨width?_eq_some_iff.mpr (.inl ⟨by omega, rfl⟩), trivial, ?_⟩
    rw [← hc, List.length_nil, codePoint_one, hlead]
  · split at h
    · obtain ⟨rfl, rfl⟩ := List.cons.inj h
      have hlead := hbyte (n / 64 % 32 + 192) (by omega)
      have ha := hbyte (n % 64 + 128) (by omega)
      refine ⟨width?_eq_some_iff.mpr (.inr (.inl ⟨by omega, by omega, rfl⟩)),
        ⟨isSecond_iff.mpr (by omega), fun _ hd => absurd hd List.not_mem_nil⟩, ?_⟩
      rw [← hc, List.length_singleton, codePoint_two, hlead, ha]
      exact congrArg Char.ofNat (by omega)
    · split at h
      · obtain ⟨rfl, rfl⟩ := List.cons.inj h
        have hlead := hbyte (n / 4096 % 16 + 224) (by omega)
        have ha := hbyte (n / 64 % 64 + 128) (by omega)
        have hb := hbyte (n % 64 + 128) (by omega)
        refine ⟨width?_eq_some_iff.mpr (.inr (.inr (.inl ⟨by omega, by omega, rfl⟩))),
          ⟨isSecond_iff.mpr (by omega), fun d hd => ?_⟩, ?_⟩
        · rw [List.mem_singleton.mp hd]
          exact isContinuation_iff.mpr (by omega)
        · rw [← hc]
          show Char.ofNat n = Char.ofNat (codePoint 3 _ [_, _])
          rw [codePoint_three, hlead, ha, hb]
          exact congrArg Char.ofNat (by omega)
      · obtain ⟨rfl, rfl⟩ := List.cons.inj h
        have hlead := hbyte (n / 262144 % 8 + 240) (by omega)
        have ha := hbyte (n / 4096 % 64 + 128) (by omega)
        have hb := hbyte (n / 64 % 64 + 128) (by omega)
        have hd := hbyte (n % 64 + 128) (by omega)
        refine ⟨width?_eq_some_iff.mpr (.inr (.inr (.inr ⟨by omega, by omega, rfl⟩))),
          ⟨isSecond_iff.mpr (by omega), fun d hmem => ?_⟩, ?_⟩
        · rcases List.mem_cons.mp hmem with rfl | hmem
          · exact isContinuation_iff.mpr (by omega)
          · rw [List.mem_singleton.mp hmem]
            exact isContinuation_iff.mpr (by omega)
        · rw [← hc]
          show Char.ofNat n = Char.ofNat (codePoint 4 _ [_, _, _])
          rw [codePoint_four, hlead, ha, hb, hd]
          exact congrArg Char.ofNat (by omega)

/-- **One character is read from its bytes and from no others**, whatever follows them. -/
theorem step_eq_ok_iff {lead : UInt8} {more : List UInt8} {c : Char} {n : Nat} :
    step false lead more = .ok (c, n) ↔ ∃ rest,
      lead :: more = String.utf8EncodeChar c ++ rest ∧ n = (String.utf8EncodeChar c).length := by
  rw [step_eq_ok]
  constructor
  · rintro ⟨tail, rest, rfl, hwidth, hlength, hgood, rfl⟩
    -- a good sequence is the encoding of its character, and the other way round
    have hpos : 1 ≤ n := by
      have hcases := width?_eq_some_iff.mp hwidth
      omega
    rw [encode_of_good hwidth hlength hgood]
    exact ⟨rest, rfl, by rw [List.length_cons]; omega⟩
  · rintro ⟨rest, hbytes, rfl⟩
    obtain ⟨first, tail, hc⟩ := List.exists_cons_of_ne_nil (String.utf8EncodeChar_ne_nil (c := c))
    rw [hc, List.cons_append] at hbytes
    obtain ⟨rfl, rfl⟩ := List.cons.inj hbytes
    obtain ⟨hwidth, hgood, hchar⟩ := good_of_encode hc
    rw [hc, List.length_cons]
    exact ⟨tail, rest, rfl, hwidth, rfl, hgood, hchar⟩

end Utf8

/-! ### Texts -/

/-- Bytes are decoded to characters exactly if they are the bytes of these, wherever they stand. -/
theorem decodeFrom_eq_ok_iff {position : Nat} {bs : List UInt8} {cs : List Char} :
    decodeFrom false .utf8 position bs = .ok cs ↔ Utf8.encode cs = bs := by
  -- the reader takes one character off the front, where the writer has put one
  fun_induction decodeFrom false .utf8 position bs generalizing cs with
  | case1 position =>
    cases cs with
    | nil => exact iff_of_true rfl rfl
    | cons c r =>
      apply iff_of_false (fun h => by cases h)
      intro h
      exact String.utf8EncodeChar_ne_nil (List.append_eq_nil_iff.mp h).1
  | case2 position b r n fault hstep =>
    apply iff_of_false (fun h => by cases h)
    intro h
    cases cs with
    | nil => cases h
    | cons c cs =>
      have hread := Utf8.step_eq_ok_iff.mpr ⟨Utf8.encode cs, h.symm, rfl⟩
      cases hstep.symm.trans hread
  | case3 position b r c n hstep ih =>
    obtain ⟨rest, hbytes, rfl⟩ := Utf8.step_eq_ok_iff.mp hstep
    have hdrop : r.drop ((String.utf8EncodeChar c).length - 1) = rest := by
      have hpos := List.length_pos_iff.mpr (String.utf8EncodeChar_ne_nil (c := c))
      calc r.drop ((String.utf8EncodeChar c).length - 1)
          = (b :: r).drop ((String.utf8EncodeChar c).length - 1 + 1) := rfl
        _ = (String.utf8EncodeChar c ++ rest).drop (String.utf8EncodeChar c).length := by
            rw [hbytes, Nat.sub_add_cancel hpos]
        _ = rest := List.drop_left
    rw [hdrop] at ih ⊢
    constructor
    · intro h
      cases hrest : decodeFrom false .utf8 (position + (String.utf8EncodeChar c).length) rest with
      | error e =>
        rw [hrest] at h
        cases h
      | ok cs' =>
        rw [hrest] at h
        rw [← Except.ok.inj h, hbytes, ← ih.mp hrest]
        rfl
    · intro h
      cases cs with
      | nil => cases h
      | cons c' cs =>
        -- the first character is the one that was read
        have hread := Utf8.step_eq_ok_iff.mpr ⟨Utf8.encode cs, h.symm, rfl⟩
        obtain ⟨rfl, -⟩ := Prod.mk.inj (Except.ok.inj (hstep.symm.trans hread))
        have hrest : Utf8.encode cs = rest := List.append_cancel_left (h.trans hbytes)
        rw [ih.mpr hrest]
        rfl

/-- A character that is read without surrogates is read with them as well. -/
theorem Utf8.step_surrogates {lead : UInt8} {more : List UInt8} {x : Char × Nat}
    (h : Utf8.step false lead more = .ok x) : Utf8.step true lead more = .ok x := by
  unfold Utf8.step at h ⊢
  split at h
  · cases h
  · rename_i width _
    simp only at h ⊢
    generalize (if width = 1 then 0
        else Utf8.goodCount lead (width - 1) (more.take (width - 1))) = good at h ⊢
    by_cases hgood : good = width - 1
    · rw [if_pos hgood] at h ⊢
      exact h
    · -- with a byte that is not as it must be, nothing is read without surrogates
      simp only [hgood, if_false, Bool.false_and, Bool.false_eq_true] at h
      split at h <;> cases h

/-- Bytes that are decoded without surrogates are decoded to the same characters with them. -/
theorem decodeFrom_surrogates {position : Nat} {bs : List UInt8} {cs : List Char}
    (h : decodeFrom false .utf8 position bs = .ok cs) :
    decodeFrom true .utf8 position bs = .ok cs := by
  fun_induction decodeFrom false .utf8 position bs generalizing cs with
  | case1 position => rwa [decodeFrom]
  | case2 position b r n fault hstep => cases h
  | case3 position b r c n hstep ih =>
    obtain ⟨cs', hrest, rfl⟩ := exists_of_map_eq_ok h
    have hstep' : Encoding.step true .utf8 b r = .ok (c, n) := Utf8.step_surrogates hstep
    rw [decodeFrom, hstep']
    show (decodeFrom true .utf8 (position + n) (r.drop (n - 1))).map _ = _
    rw [ih hrest]
    rfl

/-- **Bytes are those of one text at most**, and it is the text that is decoded. -/
theorem decodeUtf8?_eq_some_iff {bs : List UInt8} {s : String} :
    decodeUtf8? bs = some s ↔ Utf8.encode s.toList = bs := by
  rw [← @decodeFrom_eq_ok_iff 0, decodeUtf8?, decode]
  cases decodeFrom false .utf8 0 bs with
  | error e => exact iff_of_false (fun h => by cases h) (fun h => by cases h)
  | ok cs =>
    show some (String.ofList cs) = some s ↔ Except.ok cs = .ok s.toList
    rw [Option.some.injEq, Except.ok.injEq, ← String.toList_inj, String.toList_ofList]

/-- Texts with the same bytes are the same. -/
theorem Utf8.encode_inj {a b : List Char} : Utf8.encode a = Utf8.encode b ↔ a = b := by
  constructor
  · intro h
    have hb : decodeFrom false .utf8 0 (Utf8.encode b) = .ok b := decodeFrom_eq_ok_iff.mpr rfl
    exact Except.ok.inj ((decodeFrom_eq_ok_iff.mpr h).symm.trans hb)
  · exact congrArg Utf8.encode

/-- Texts are encoded one after the other. -/
theorem Utf8.encode_append (a b : List Char) :
    Utf8.encode (a ++ b) = Utf8.encode a ++ Utf8.encode b :=
  List.flatMap_append

end IndexSearch.Text
