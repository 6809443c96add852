import IndexSearch.Json.Conversion
import IndexSearch.Json.Writer
import IndexSearch.Proofs.JsonNumbers
import IndexSearch.Proofs.JsonObjects
import IndexSearch.Proofs.JsonTexts

namespace IndexSearch.Json

open Number

/-!
# Reading JSON back

What is written is read as the value that was written. There are two exceptions. Of an object with a
name twice a reader keeps the last of the values; no reader makes such an object, and no writer of
this library is given one. A whole number that is too long is refused. The induction follows the
structure of the value, and the characters that are written for a part are steps enough for reading
it. It does not depend on which whole numbers are read.

* `Style.Separates` — what a style has to put between values;
* `readValue_chars` — a value is read from its characters, whatever list or object follows it;
* `read_write` — a text is read as the value that it was written for;
* `read_write_iff`, `ofChars_of_not_readable` — a text with a whole number that is too long is not;
* `write_injective` — different values have different texts.
-/

/-! ### Styles -/

/-- What separates values and what separates a name from its value are a comma and a colon with
    nothing after them but blanks. -/
structure Style.Separates (style : Style) : Prop where
  /-- Between values. -/
  comma : ∃ bs, style.comma.toList = ',' :: bs ∧ ∀ b ∈ bs, isSpace b = true
  /-- Between a name and its value. -/
  colon : ∃ bs, style.colon.toList = ':' :: bs ∧ ∀ b ∈ bs, isSpace b = true

/-- Blanks after commas and colons separate. -/
theorem separates_spaced : spaced.Separates :=
  have hblank : ∀ b ∈ [' '], isSpace b = true := List.all_eq_true.mp (by decide)
  ⟨⟨[' '], rfl, hblank⟩, ⟨[' '], rfl, hblank⟩⟩

/-- Commas and colons separate by themselves. -/
theorem separates_compact : compact.Separates :=
  ⟨⟨[], rfl, by simp⟩, ⟨[], rfl, by simp⟩⟩

/-! ### How values begin -/

/-- Whether the character may be the first one of a value. -/
def beginsValue (c : Char) : Bool := !isSpace c && c != ']' && c != '\uFEFF'

/-- A value may begin with a digit. -/
theorem beginsValue_of_isDigit {c : Char} (h : c.isDigit = true) : beginsValue c = true := by
  simp only [beginsValue, isSpace, Bool.and_eq_true, bne_iff_ne, Bool.not_eq_true',
    Bool.or_eq_false_iff, decide_eq_false_iff_not]
  refine ⟨⟨⟨⟨⟨?_, ?_⟩, ?_⟩, ?_⟩, ?_⟩, ?_⟩ <;> (rintro rfl; revert h; decide)

/-- A number begins with its sign or with a digit. -/
theorem exists_signChars_eq_cons (negative : Bool) {body : List Char}
    (h : ∃ d r, body = d :: r ∧ d.isDigit = true) :
    ∃ c r, signChars negative ++ body = c :: r ∧ beginsValue c = true := by
  obtain ⟨d, r, rfl, hd⟩ := h
  cases negative with
  | true => exact ⟨'-', d :: r, rfl, by decide⟩
  | false => exact ⟨d, r, rfl, beginsValue_of_isDigit hd⟩

/-- The characters of a value begin with one that no blank, end of a list or mark is. -/
theorem exists_chars_eq_cons_beginsValue (style : Style) (j : Json) :
    ∃ c r, chars style j = c :: r ∧ beginsValue c = true := by
  -- one case for each kind of value; only a number has to be looked into for its first character
  cases j with
  | null => exact ⟨'n', _, rfl, by decide⟩
  | bool b => cases b <;> exact ⟨_, _, rfl, by decide⟩
  | int n =>
    obtain ⟨d, r, hd, hdigit⟩ := (isWhole_digits n.natAbs).exists_cons
    rw [chars, toList_intText]
    exact exists_signChars_eq_cons _ ⟨d, r, hd, hdigit⟩
  | real x =>
    rw [chars]
    cases x with
    | nan => exact ⟨'N', _, rfl, by decide⟩
    | infinite negative => cases negative <;> exact ⟨_, _, rfl, by decide⟩
    | finite negative m e h =>
      have hl := (Binary64.shortest negative m e h).layout_wellFormed
      have hbody := exists_chars_eq_cons hl []
      rw [List.append_nil] at hbody
      rw [toList_realText]
      exact exists_signChars_eq_cons negative hbody
  | text s => exact ⟨'"', _, rfl, by decide⟩
  | array items => exact ⟨'[', _, rfl, by decide⟩
  | object fields => exact ⟨'\x7b', _, rfl, by decide⟩

/-- A list that is not empty begins with its first value. -/
theorem exists_charsOfItems_eq_cons (style : Style) (j : Json) (r : List Json) :
    ∃ c t, charsOfItems style (j :: r) = c :: t ∧ beginsValue c = true := by
  obtain ⟨c, t, hc, hbegins⟩ := exists_chars_eq_cons_beginsValue style j
  cases r with
  | nil => exact ⟨c, t, hc, hbegins⟩
  | cons k r =>
    refine ⟨c, t ++ style.comma.toList ++ charsOfItems style (k :: r), ?_, hbegins⟩
    rw [charsOfItems, hc]
    · rfl
    · exact List.cons_ne_nil k r

/-- A value does not begin with a blank. -/
theorem exists_chars_append (style : Style) (j : Json) (rest : List Char) :
    ∃ c r, chars style j ++ rest = c :: r ∧ isSpace c = false := by
  obtain ⟨c, r, hc, hbegins⟩ := exists_chars_eq_cons_beginsValue style j
  simp only [beginsValue, Bool.and_eq_true, Bool.not_eq_true'] at hbegins
  exact ⟨c, r ++ rest, by rw [hc]; rfl, hbegins.1.1⟩

/-- A text in quotes with something after it, opened up for the reader. -/
theorem quotedText_append (style : Style) (k : String) (r : List Char) :
    quotedText style k ++ r = '"' :: (k.toList.flatMap (escaped style) ++ '"' :: r) := by
  rw [quotedText, List.append_assoc]
  rfl

/-- The first value of a list and the others, opened up for the reader. -/
theorem charsOfItems_cons (style : Style) (j k : Json) (r : List Json) :
    charsOfItems style (j :: k :: r)
      = chars style j ++ (style.comma.toList ++ charsOfItems style (k :: r)) := by
  rw [charsOfItems, List.append_assoc]
  exact List.cons_ne_nil k r

/-- A single field, opened up for the reader. -/
theorem charsOfFields_single (style : Style) (k : String) (v : Json) :
    charsOfFields style [(k, v)]
      = quotedText style k ++ (style.colon.toList ++ chars style v) := by
  rw [charsOfFields, List.append_assoc]

/-- The first field and the others, opened up for the reader. -/
theorem charsOfFields_cons (style : Style) (k : String) (v : Json) (f : String × Json)
    (r : List (String × Json)) :
    charsOfFields style ((k, v) :: f :: r) = quotedText style k ++ (style.colon.toList
      ++ (chars style v ++ (style.comma.toList ++ charsOfFields style (f :: r)))) := by
  rw [charsOfFields]
  · simp only [List.append_assoc]
  · exact List.cons_ne_nil f r

/-- Fields begin with the quote of the first name. -/
theorem exists_charsOfFields_eq_cons (style : Style) (f : String × Json)
    (r : List (String × Json)) : ∃ t, charsOfFields style (f :: r) = '"' :: t := by
  cases r with
  | nil => rw [charsOfFields_single, quotedText_append]; exact ⟨_, rfl⟩
  | cons g r => rw [charsOfFields_cons, quotedText_append]; exact ⟨_, rfl⟩

/-! ### Reading values -/

variable {fits : Int → Bool}

/-- A scalar value is read as a value: it begins neither a text nor a list nor an object. -/
theorem readValue_of_readScalar (fuel : Nat) {cs rest : List Char} {j : Json}
    (h : readScalar fits cs = .ok (j, rest)) : readValue fits (fuel + 1) cs = .ok (j, rest) := by
  unfold readValue
  -- no scalar begins with the quote, the bracket or the brace that the first cases are about
  split
  · simp [readScalar, word?, words, List.isPrefixOf?, number?, wholeDigits, refuse] at h
  · simp [readScalar, word?, words, List.isPrefixOf?, number?, wholeDigits, refuse] at h
  · simp [readScalar, word?, words, List.isPrefixOf?, number?, wholeDigits, refuse] at h
  · exact h

/-- Where there is no blank nothing is skipped. -/
theorem skip_cons {c : Char} (hc : isSpace c = false) (r : List Char) : skip (c :: r) = c :: r :=
  List.dropWhile_cons_of_neg (by rw [hc]; decide)

/-- Blanks are passed over up to what begins a value. -/
theorem skip_blanks {bs : List Char} (hbs : ∀ b ∈ bs, isSpace b = true) {c : Char}
    (hc : isSpace c = false) (r : List Char) : skip (bs ++ c :: r) = c :: r := by
  rw [skip, List.dropWhile_append_of_pos hbs]
  exact skip_cons hc r

/-- A character that continues no number ends one. -/
theorem endsNumber_cons {c : Char} (h : c.isDigit = false ∧ c ≠ '.' ∧ c ≠ 'e' ∧ c ≠ 'E')
    (r : List Char) : EndsNumber (c :: r) := by
  intro d hd
  rw [List.head?_cons, Option.mem_some_iff] at hd
  exact hd ▸ h

/-- What stands between values ends a number. -/
theorem endsNumber_append {style : Style} (hs : style.Separates) (r : List Char) :
    EndsNumber (style.comma.toList ++ r) := by
  obtain ⟨bs, hbs, -⟩ := hs.comma
  rw [hbs]
  exact endsNumber_cons (by decide) _

/-! One step of reading a list or an object: a value that is followed by the end, or by a separator
and the rest. -/

/-- The last value of a list is read up to the bracket. -/
theorem readItems_last {fuel : Nat} {cs rest : List Char} {j : Json}
    (h : readValue fits fuel cs = .ok (j, ']' :: rest)) :
    readItems fits (fuel + 1) cs = .ok ([j], rest) := by
  have hskip : skip (']' :: rest) = ']' :: rest := rfl
  simp only [readItems, h, bind, Except.bind, hskip]

/-- A value of a list is read up to the comma, and then the others are. -/
theorem readItems_comma {style : Style} (hs : style.Separates) {fuel : Nat}
    {cs cs' rest : List Char} {j : Json} {items : List Json}
    (h : readValue fits fuel cs = .ok (j, style.comma.toList ++ cs'))
    (hcs' : ∃ c r, cs' = c :: r ∧ isSpace c = false)
    (hitems : readItems fits fuel cs' = .ok (items, rest)) :
    readItems fits (fuel + 1) cs = .ok (j :: items, rest) := by
  obtain ⟨bs, hcomma, hbs⟩ := hs.comma
  obtain ⟨c, r, rfl, hc⟩ := hcs'
  have hskip : skip (',' :: bs ++ c :: r) = ',' :: (bs ++ c :: r) := rfl
  simp only [readItems, h, hcomma, bind, Except.bind, hskip, skip_blanks hbs hc, hitems]
  rfl

/-- The last field is read up to the brace. -/
theorem readFields_last {style : Style} (hs : style.Separates) {fuel : Nat} (k : String) {v : Json}
    {cs rest : List Char} (hcs : ∃ c r, cs = c :: r ∧ isSpace c = false)
    (h : readValue fits fuel cs = .ok (v, '\x7d' :: rest)) :
    readFields fits (fuel + 1) (quotedText style k ++ (style.colon.toList ++ cs))
      = .ok ([(k, v)], rest) := by
  obtain ⟨bs, hcolon, hbs⟩ := hs.colon
  obtain ⟨c, r, rfl, hc⟩ := hcs
  have hskip : skip (':' :: bs ++ c :: r) = ':' :: (bs ++ c :: r) := rfl
  have hend : skip ('\x7d' :: rest) = '\x7d' :: rest := rfl
  rw [quotedText_append]
  simp only [readFields, readText_quoted, hcolon, bind, Except.bind, hskip, skip_blanks hbs hc, h,
    hend]

/-- A field is read up to the comma, and then the others are. -/
theorem readFields_comma {style : Style} (hs : style.Separates) {fuel : Nat} (k : String) {v : Json}
    {cs cs' rest : List Char} {fields : List (String × Json)}
    (hcs : ∃ c r, cs = c :: r ∧ isSpace c = false)
    (h : readValue fits fuel cs = .ok (v, style.comma.toList ++ cs'))
    (hcs' : ∃ c r, cs' = c :: r ∧ isSpace c = false)
    (hfields : readFields fits fuel cs' = .ok (fields, rest)) :
    readFields fits (fuel + 1) (quotedText style k ++ (style.colon.toList ++ cs))
      = .ok ((k, v) :: fields, rest) := by
  obtain ⟨bs, hcolon, hbs⟩ := hs.colon
  obtain ⟨c, r, rfl, hc⟩ := hcs
  obtain ⟨bs', hcomma, hbs'⟩ := hs.comma
  obtain ⟨c', r', rfl, hc'⟩ := hcs'
  have hskip : skip (':' :: bs ++ c :: r) = ':' :: (bs ++ c :: r) := rfl
  have hmore : skip (',' :: bs' ++ c' :: r') = ',' :: (bs' ++ c' :: r') := rfl
  rw [hcomma] at h
  rw [quotedText_append]
  -- the blanks behind the colon and the comma are skipped, and what follows them begins with none
  simp only [readFields, readText_quoted, hcolon, bind, Except.bind, hskip, skip_blanks hbs hc, h,
    hmore, skip_blanks hbs' hc', hfields]
  rfl

/-- A list is read by its values. -/
theorem readValue_items {fuel : Nat} {cs rest : List Char} {items : List Json}
    (hcs : ∃ c r, cs = c :: r ∧ isSpace c = false ∧ c ≠ ']')
    (h : readItems fits fuel cs = .ok (items, rest)) :
    readValue fits (fuel + 1) ('[' :: cs) = .ok (array items, rest) := by
  obtain ⟨c, r, rfl, hspace, hend⟩ := hcs
  have hskip : skip (c :: r) = c :: r := skip_cons hspace r
  unfold readValue
  simp only [hskip]
  split
  · rename_i heq
    exact absurd (List.cons.inj heq).1 hend
  · rw [h]
    rfl

/-- An object is read by its fields, which are kept if no name occurs twice. -/
theorem readValue_fields {fuel : Nat} {cs rest : List Char} {fields : List (String × Json)}
    (hnodup : (fields.map Prod.fst).Nodup)
    (h : readFields fits fuel ('"' :: cs) = .ok (fields, rest)) :
    readValue fits (fuel + 1) ('\x7b' :: '"' :: cs) = .ok (object fields, rest) := by
  have hskip : skip ('"' :: cs) = '"' :: cs := rfl
  unfold readValue
  simp only [hskip]
  show (readFields fits fuel ('"' :: cs)).map _ = _
  rw [h]
  show Except.ok (object (distinctFields fields), rest) = _
  rw [distinctFields_of_nodup hnodup]

mutual

/-- **A value is read from its characters**, whatever follows that does not continue a number. -/
theorem readValue_chars {style : Style} (hs : style.Separates) :
    ∀ (j : Json) (fuel : Nat) (rest : List Char), j.Readable fits → EndsNumber rest →
      2 * (chars style j).length ≤ fuel → readValue fits fuel (chars style j ++ rest) = .ok (j, rest)
  | .null, fuel + 1, rest, _, _, _ => readValue_of_readScalar fuel rfl
  | .bool b, fuel + 1, rest, _, _, _ => by
    cases b <;> exact readValue_of_readScalar fuel rfl
  | .int n, fuel + 1, rest, hn, hr, _ => readValue_of_readScalar fuel (readScalar_int hn hr)
  | .real x, fuel + 1, rest, _, hr, _ => readValue_of_readScalar fuel (readScalar_real fits x hr)
  | .text s, fuel + 1, rest, _, _, _ => by
    rw [chars, quotedText_append, readValue, readText_quoted]
    rfl
  | .array [], fuel + 1, rest, _, _, _ => rfl
  | .array (j :: r), fuel + 1, rest, hj, _, hfuel => by
    -- the brackets are the step by which the list is more than its values
    rw [chars, List.length_append, List.length_cons] at hfuel
    have hitems := readItems_chars hs (j :: r) fuel rest (List.cons_ne_nil j r) hj
      (by simp only [List.length_singleton] at hfuel; omega)
    obtain ⟨c, t, hc, hbegins⟩ := exists_charsOfItems_eq_cons style j r
    simp only [beginsValue, Bool.and_eq_true, Bool.not_eq_true', bne_iff_ne] at hbegins
    rw [chars, List.append_assoc]
    refine readValue_items ⟨c, t ++ ']' :: rest, ?_, hbegins.1⟩ hitems
    rw [hc]
    rfl
  | .object [], fuel + 1, rest, _, _, _ => rfl
  | .object (f :: r), fuel + 1, rest, hj, _, hfuel => by
    rw [chars, List.length_append, List.length_cons] at hfuel
    have hfields := readFields_chars hs (f :: r) fuel rest (List.cons_ne_nil f r) hj.2
      (by simp only [List.length_singleton] at hfuel; omega)
    obtain ⟨t, ht⟩ := exists_charsOfFields_eq_cons style f r
    rw [chars, List.append_assoc]
    rw [ht] at hfields ⊢
    exact readValue_fields hj.1 hfields
  | j, 0, rest, _, _, hfuel => by
    -- every value has a character, for which there are steps
    obtain ⟨c, t, hc, -⟩ := exists_chars_eq_cons_beginsValue style j
    rw [hc, List.length_cons] at hfuel
    omega

/-- The values of a list are read up to its end. -/
theorem readItems_chars {style : Style} (hs : style.Separates) :
    ∀ (items : List Json) (fuel : Nat) (rest : List Char), items ≠ [] → ReadableItems fits items →
      2 * (charsOfItems style items).length + 1 ≤ fuel →
      readItems fits fuel (charsOfItems style items ++ ']' :: rest) = .ok (items, rest)
  | [j], fuel + 1, rest, _, hj, hfuel => by
    rw [charsOfItems] at hfuel ⊢
    exact readItems_last (readValue_chars hs j fuel (']' :: rest) hj.1
      (endsNumber_cons (by decide) rest) (by omega))
  | j :: k :: r, fuel + 1, rest, _, hj, hfuel => by
    -- the comma is the step by which the first value and the others are less than the list
    obtain ⟨bs, hbs, -⟩ := hs.comma
    rw [charsOfItems_cons, hbs] at hfuel
    simp only [List.length_append, List.length_cons] at hfuel
    have hvalue := readValue_chars hs j fuel
      (style.comma.toList ++ (charsOfItems style (k :: r) ++ ']' :: rest)) hj.1
      (endsNumber_append hs _) (by omega)
    have hitems := readItems_chars hs (k :: r) fuel rest (List.cons_ne_nil k r) hj.2 (by omega)
    obtain ⟨c, t, hc, hbegins⟩ := exists_charsOfItems_eq_cons style k r
    simp only [beginsValue, Bool.and_eq_true, Bool.not_eq_true'] at hbegins
    rw [charsOfItems_cons, List.append_assoc, List.append_assoc]
    refine readItems_comma hs hvalue ⟨c, t ++ ']' :: rest, ?_, hbegins.1.1⟩ hitems
    rw [hc]
    rfl

/-- The fields of an object are read up to its end. -/
theorem readFields_chars {style : Style} (hs : style.Separates) :
    ∀ (fields : List (String × Json)) (fuel : Nat) (rest : List Char), fields ≠ [] →
      ReadableFields fits fields → 2 * (charsOfFields style fields).length + 1 ≤ fuel →
      readFields fits fuel (charsOfFields style fields ++ '\x7d' :: rest) = .ok (fields, rest)
  | [(k, v)], fuel + 1, rest, _, hv, hfuel => by
    rw [charsOfFields_single] at hfuel ⊢
    simp only [List.length_append] at hfuel
    have hvalue := readValue_chars hs v fuel ('\x7d' :: rest) hv.1
      (endsNumber_cons (by decide) rest) (by omega)
    rw [List.append_assoc, List.append_assoc]
    exact readFields_last hs k (exists_chars_append style v _) hvalue
  | (k, v) :: f :: r, fuel + 1, rest, _, hv, hfuel => by
    obtain ⟨bs, hbs, -⟩ := hs.comma
    rw [charsOfFields_cons, hbs] at hfuel
    simp only [List.length_append, List.length_cons] at hfuel
    have hvalue := readValue_chars hs v fuel
      (style.comma.toList ++ (charsOfFields style (f :: r) ++ '\x7d' :: rest)) hv.1
      (endsNumber_append hs _) (by omega)
    have hfields := readFields_chars hs (f :: r) fuel rest (List.cons_ne_nil f r) hv.2 (by omega)
    obtain ⟨t, ht⟩ := exists_charsOfFields_eq_cons style f r
    -- after the comma comes the quote of the next name
    have hquote : ∃ c t, charsOfFields style (f :: r) ++ '\x7d' :: rest = c :: t
        ∧ isSpace c = false := ⟨'"', t ++ '\x7d' :: rest, by rw [ht]; rfl, by decide⟩
    rw [charsOfFields_cons]
    simp only [List.append_assoc]
    exact readFields_comma hs k (exists_chars_append style v _) hvalue hquote hfields

end

/-- The characters of a value are read as the value. -/
theorem readChars_chars {style : Style} (hs : style.Separates) {j : Json} (hj : j.Readable fits) :
    readChars fits (chars style j) = .ok j := by
  obtain ⟨c, r, hc, hbegins⟩ := exists_chars_eq_cons_beginsValue style j
  simp only [beginsValue, Bool.and_eq_true, Bool.not_eq_true'] at hbegins
  have hskip : skip (chars style j) = chars style j := by
    rw [hc]
    exact skip_cons hbegins.1.1 r
  have hvalue := readValue_chars hs j (2 * (chars style j).length + 2) [] hj (by simp [EndsNumber])
    (by omega)
  rw [List.append_nil] at hvalue
  simp only [readChars, hskip, hvalue, bind, Except.bind]
  rfl

/-! ### Whole numbers that are too long -/

/-- A result that is mapped is there without the limit if it is before the mapping. -/
theorem map_eq_ok_of {ε α β : Type} {f : α → β} {x y : Except ε α} {b : β}
    (hxy : ∀ a, x = .ok a → y = .ok a) (h : x.map f = .ok b) : y.map f = .ok b := by
  obtain ⟨a, ha, rfl⟩ := exists_of_map_eq_ok h
  rw [hxy a ha]
  rfl

/-- A scalar value that fits is read without the limit as well. -/
theorem readScalar_without_limit {cs rest : List Char} {j : Json}
    (h : readScalar fits cs = .ok (j, rest)) :
    readScalar (fun _ => true) cs = .ok (j, rest) := by
  unfold readScalar at h ⊢
  -- words have no digits; of the numbers only a whole one is looked at for its length
  cases hword : word? cs with
  | some x =>
    rw [hword] at h
    exact h
  | none =>
    simp only [hword] at h ⊢
    split at h
    · split at h
      · exact h
      · cases h
    · exact h
    · cases h

/-- One step of reading a value without the limit: the parts are what they are with it. -/
theorem readValue_succ_without_limit {fuel : Nat}
    (hitems : ∀ {cs x}, readItems fits fuel cs = .ok x → readItems (fun _ => true) fuel cs = .ok x)
    (hfields : ∀ {cs x}, readFields fits fuel cs = .ok x →
      readFields (fun _ => true) fuel cs = .ok x)
    {cs rest : List Char} {j : Json} (h : readValue fits (fuel + 1) cs = .ok (j, rest)) :
    readValue (fun _ => true) (fuel + 1) cs = .ok (j, rest) := by
  unfold readValue at h ⊢
  -- a text is read without a limit, and the brackets leave it to what is between them
  split at h
  · exact h
  · simp only
    split at h
    · exact h
    · exact map_eq_ok_of (fun _ => hitems) h
  · simp only
    split at h
    · exact h
    · exact map_eq_ok_of (fun _ => hfields) h
  · exact readScalar_without_limit h


/-- **What is read with a limit is read without it.** -/
theorem read_without_limit (fuel : Nat) :
    (∀ {cs x}, readValue fits fuel cs = .ok x → readValue (fun _ => true) fuel cs = .ok x)
      ∧ (∀ {cs x}, readItems fits fuel cs = .ok x → readItems (fun _ => true) fuel cs = .ok x)
      ∧ ∀ {cs x}, readFields fits fuel cs = .ok x →
        readFields (fun _ => true) fuel cs = .ok x := by
  -- the three readers call each other with less fuel, so all of them are proved at once
  induction fuel with
  | zero => refine ⟨fun h => ?_, fun h => ?_, fun h => ?_⟩ <;> cases h
  | succ fuel ih =>
    obtain ⟨hvalues, hitems, hfields⟩ := ih
    refine ⟨readValue_succ_without_limit hitems hfields, fun {cs x} h => ?_, fun {cs x} h => ?_⟩
    · -- an item, then the end or a comma and the others
      simp only [readItems, bind, Except.bind] at h ⊢
      cases hvalue : readValue fits fuel cs with
      | error e => rw [hvalue] at h; cases h
      | ok y =>
        simp only [hvalue] at h
        simp only [hvalues hvalue]
        split at h
        · exact h
        · split at h
          · cases h
          · rename_i hrest
            rw [hitems hrest]
            exact h
        · cases h
    · -- a name, a colon and a value, then the end or a comma and the others
      simp only [readFields, bind, Except.bind] at h ⊢
      split at h
      · split at h
        · cases h
        · split at h
          · split at h
            · cases h
            · rename_i hvalue
              simp only [hvalues hvalue]
              split at h
              · exact h
              · split at h
                · cases h
                · rename_i hrest
                  rw [hfields hrest]
                  exact h
              · cases h
          · cases h
      · cases h

/-- A text is read with the limit as it is without. -/
theorem readChars_without_limit {cs : List Char} {j : Json} (h : readChars fits cs = .ok j) :
    readChars (fun _ => true) cs = .ok j := by
  simp only [readChars, bind, Except.bind] at h ⊢
  cases hvalue : readValue fits (2 * cs.length + 2) (skip cs) with
  | error e => rw [hvalue] at h; cases h
  | ok x =>
    rw [hvalue] at h
    rw [(read_without_limit _).1 hvalue]
    exact h

/-- A text that is written does not begin with a byte order mark. -/
theorem read_write_eq_ofChars (style : Style) (j : Json) :
    Json.read (j.write style) = ofChars (chars style j) := by
  obtain ⟨c, r, hc, hbegins⟩ := exists_chars_eq_cons_beginsValue style j
  simp only [beginsValue, Bool.and_eq_true, bne_iff_ne] at hbegins
  rw [Json.read, write, String.toList_ofList]
  split
  · rename_i r' heq
    rw [hc, List.cons.injEq] at heq
    exact absurd heq.1 hbegins.2
  · rfl

/-- A text is read as the value that it was written for. -/
theorem read_write {style : Style} (hs : style.Separates) {j : Json} (hj : j.Readable isShort) :
    Json.read (j.write style) = .ok j := by
  rw [read_write_eq_ofChars, ofChars, readChars_chars hs hj]
  rfl

/-- The characters of a value with a whole number that is too long are refused. -/
theorem ofChars_of_not_readable {style : Style} (hs : style.Separates) {j : Json}
    (hj : j.Readable fun _ => true) (hlong : ¬ j.Readable isShort) :
    ∃ e, ofChars (chars style j) = .error e := by
  cases h : ofChars (chars style j) with
  | error e => exact ⟨e, rfl⟩
  | ok k =>
    -- what is read is what was written, hence would not be too long
    have hread := readChars_without_limit (mapError_eq_ok_iff.mp h)
    rw [readChars_chars hs hj] at hread
    cases hread
    exact absurd (readable_of_ofChars h) hlong

/-- **A text that is written is read as the value exactly if the value is readable**: if no object
    within it has a name twice and no whole number is too long. -/
theorem read_write_iff {style : Style} (hs : style.Separates) {j : Json} :
    Json.read (j.write style) = .ok j ↔ j.Readable isShort :=
  ⟨readable_of_text, read_write hs⟩

/-- Values without a name twice have different texts, however long their whole numbers are. -/
theorem write_injective {style : Style} (hs : style.Separates) {j k : Json}
    (hj : j.Readable fun _ => true) (hk : k.Readable fun _ => true)
    (h : j.write style = k.write style) : j = k := by
  -- no text with a long whole number is read, but its characters are if that is disregarded
  have hread := readChars_chars hs hj
  rw [String.ofList_injective h, readChars_chars hs hk] at hread
  exact (Except.ok.inj hread).symm

/-! ### JSON and values -/

/-- A whole number has JSON exactly if it is short. -/
theorem toJson_int (n : Int) : (Value.int n).toJson =
    if isShort n then .ok (int n) else .error (.text .tooLong) := by
  rw [Value.toJson, TextFault.ofInt]
  cases isShort n <;> rfl

mutual

/-- The JSON for the value that JSON denotes is that JSON, if all of it can be written. -/
theorem toJson_toValue : ∀ j : Json, j.Readable isShort → j.toValue.toJson = .ok j
  | .null, _ | .bool _, _ | .real _, _ | .text _, _ => rfl
  | .int n, h => by rw [toValue, toJson_int, if_pos (show isShort n = true from h)]
  | .array items, h => by
    rw [toValue, Value.toJson, toJsonItems_toValues items h]
    rfl
  | .object fields, h => by
    rw [toValue, Value.toJson, toJsonFields_toEntries fields h.2]
    rfl

/-- The JSON for the values of a list is the list. -/
theorem toJsonItems_toValues : ∀ items : List Json, ReadableItems isShort items →
    Value.toJsonItems (toValues items) = .ok items
  | [], _ => rfl
  | j :: r, h => by
    rw [toValues, Value.toJsonItems, toJson_toValue j h.1, toJsonItems_toValues r h.2]
    rfl

/-- The fields for the entries of an object are its fields. -/
theorem toJsonFields_toEntries : ∀ fields : List (String × Json), ReadableFields isShort fields →
    Value.toJsonFields (toEntries fields) = .ok fields
  | [], _ => rfl
  | (k, v) :: r, h => by
    rw [toEntries, Value.toJsonFields, toJson_toValue v h.1, toJsonFields_toEntries r h.2]
    rfl

end

mutual

/-- There is no JSON for a value with a whole number that is too long. -/
theorem toJson_toValue_of_long : ∀ j : Json, j.Readable (fun _ => true) → ¬ j.Readable isShort →
    j.toValue.toJson = .error (.text .tooLong)
  | .null, _, hlong | .bool _, _, hlong | .real _, _, hlong | .text _, _, hlong =>
    absurd trivial hlong
  | .int n, _, hlong => by rw [toValue, toJson_int, if_neg (show ¬ isShort n = true from hlong)]
  | .array items, h, hlong => by
    rw [toValue, Value.toJson, toJsonItems_toValues_of_long items h hlong]
    rfl
  | .object fields, h, hlong => by
    have hfields : ¬ ReadableFields isShort fields := fun hshort => hlong ⟨h.1, hshort⟩
    rw [toValue, Value.toJson, toJsonFields_toEntries_of_long fields h.2 hfields]
    rfl

/-- The first of the values with a whole number that is too long is in the way of the others. -/
theorem toJsonItems_toValues_of_long : ∀ items : List Json,
    ReadableItems (fun _ => true) items → ¬ ReadableItems isShort items →
    Value.toJsonItems (toValues items) = .error (.text .tooLong)
  | [], _, hlong => absurd trivial hlong
  | j :: r, h, hlong => by
    by_cases hj : j.Readable isShort
    · have hr : ¬ ReadableItems isShort r := fun hr => hlong ⟨hj, hr⟩
      rw [toValues, Value.toJsonItems, toJson_toValue j hj, toJsonItems_toValues_of_long r h.2 hr]
      rfl
    · rw [toValues, Value.toJsonItems, toJson_toValue_of_long j h.1 hj]
      rfl

/-- The first of the fields with a whole number that is too long is in the way of the others. -/
theorem toJsonFields_toEntries_of_long : ∀ fields : List (String × Json),
    ReadableFields (fun _ => true) fields → ¬ ReadableFields isShort fields →
    Value.toJsonFields (toEntries fields) = .error (.text .tooLong)
  | [], _, hlong => absurd trivial hlong
  | (k, v) :: r, h, hlong => by
    by_cases hv : v.Readable isShort
    · have hr : ¬ ReadableFields isShort r := fun hr => hlong ⟨hv, hr⟩
      rw [toEntries, Value.toJsonFields, toJson_toValue v hv,
        toJsonFields_toEntries_of_long r h.2 hr]
      rfl
    · rw [toEntries, Value.toJsonFields, toJson_toValue_of_long v h.1 hv]
      rfl

end

/-- Null is the value of null alone. -/
theorem isNull_toValue (j : Json) : j.toValue.isNull = true ↔ j = .null := by
  cases j <;> simp [toValue, Value.isNull]

/-- JSON other than null denotes another value than null. -/
theorem isNull_toValue_of_ne {j : Json} (h : j ≠ .null) : j.toValue.isNull = false := by
  rw [← Bool.not_eq_true, isNull_toValue]
  exact h

end IndexSearch.Json
