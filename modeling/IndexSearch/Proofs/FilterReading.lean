import IndexSearch.Proofs.FilterFaults
import IndexSearch.Proofs.FilterReader
import IndexSearch.Proofs.PlainText
import Mathlib.Data.Bool.AllAny

namespace IndexSearch

open Number

/-!
# Filters are read back as they were built

Whatever a text inside a filter holds — quotes, blanks, the words of the language — the reader finds
its end, because a quote inside it is doubled and the quote that ends it is followed by nothing or
by a blank.

A filter made of such leaves has a text unless a literal in it has none: a whole number of more than
4300 digits, or a moment of a region that does not tell its offset.

* `readTerm_written` — a term is read from its text, whatever may follow it in a filter;
* `readTerms_text` — a chain of terms is read from its text;
* `Filter.literals` — what fields are compared with, `Filter.exists_compile_iff` — there is a text if
  all of it can be written;
* `Filter.reads_back` — the text of a filter is read as its leaves and combiners, so two filters
  have the same text exactly if these agree.
-/

/-! ### The texts of terms -/

/-- The text of an operand. -/
def Operand.written : Operand → String
  | quoted s => String.ofList (quoteLiteral s.toList)
  | bare s => s

/-- The text of a term. -/
def Term.written : Term → String
  | always => "true"
  | comparison field c operand => field ++ " " ++ c.word ++ " " ++ operand.written
  | distance field longitude latitude c number =>
    "geo.distance(" ++ field ++ ", geography'POINT(" ++ longitude ++ " " ++ latitude ++ ")')"
      ++ " " ++ c.word ++ " " ++ number

/-- Whether a character may stand in the name of a field: all but the three that end a name. Letters
    and digits of any script, underscores and slashes may. -/
def isNameChar (c : Char) : Bool := c != ' ' && c != '(' && c != ','

/-- Whether a text is the name of a field. -/
def isName (s : String) : Bool := !s.isEmpty && s.toList.all isNameChar

/-- The terms that can be told apart by their texts: fields are named, and what has no quotes around
    it ends nothing. -/
def Term.Readable : Term → Prop
  | always => True
  | comparison field _ (.quoted _) => isName field = true
  | comparison field _ (.bare s) => isName field = true ∧ Plain s.toList
  | distance field longitude latitude _ number =>
    isName field = true ∧ Plain longitude.toList ∧ Plain latitude.toList ∧ Plain number.toList

/-- What may follow a term in a filter: nothing, or a combiner between blanks. -/
def EndsTerm (rest : List Char) : Prop :=
  rest = [] ∨ ∃ (k : Combiner) (r : List Char), rest = (" " ++ k.word ++ " ").toList ++ r

/-- The letters, the digits, the underscore and the slash may stand in a name. -/
theorem isNameChar_of_word {c : Char} (h : c.isAlphanum || c = '_' || c = '/') :
    isNameChar c = true := by
  simp only [isNameChar, Bool.and_eq_true, bne_iff_ne, ne_eq]
  refine ⟨⟨?_, ?_⟩, ?_⟩ <;> (rintro rfl; revert h; decide)

/-! ### Reading the parts of a term -/

/-- A run without the character that ends it is taken whole. -/
theorem takeWhile_run {stop : Char} {w rest : List Char} (hw : ∀ c ∈ w, c ≠ stop)
    (hr : ∀ c ∈ rest.head?, c = stop) : (w ++ rest).takeWhile (· ≠ stop) = w :=
  takeWhile_append_stop (fun c hc => by simpa using hw c hc) (fun c hc => by simpa using hr c hc)

/-- What follows a run without the character that ends it is left. -/
theorem dropWhile_run {stop : Char} {w rest : List Char} (hw : ∀ c ∈ w, c ≠ stop)
    (hr : ∀ c ∈ rest.head?, c = stop) : (w ++ rest).dropWhile (· ≠ stop) = rest :=
  dropWhile_append_stop (fun c hc => by simpa using hw c hc) (fun c hc => by simpa using hr c hc)

/-- A text begins with what was put at its front. -/
theorem isPrefixOf?_append (p r : List Char) : p.isPrefixOf? (p ++ r) = some r :=
  List.isPrefixOf?_eq_some_iff_append_eq.mpr rfl

/-- A comparison is read at the front of a text. -/
theorem readWord_comparison (c : Comparison) (r : List Char) :
    readWord Comparison.word Comparison.all ((" " ++ c.word ++ " ").toList ++ r) = some (c, r) := by
  cases c <;> simp [readWord, Comparison.all, Comparison.word, List.isPrefixOf?]

/-- A combiner is read at the front of a text. -/
theorem readWord_combiner (k : Combiner) (r : List Char) :
    readWord Combiner.word Combiner.all ((" " ++ k.word ++ " ").toList ++ r) = some (k, r) := by
  cases k <;> simp [readWord, Combiner.all, Combiner.word, List.isPrefixOf?]

/-- No comparison begins where a term ends. -/
theorem readWord_comparison_of_endsTerm {rest : List Char} (h : EndsTerm rest) :
    readWord Comparison.word Comparison.all rest = none := by
  rcases h with rfl | ⟨k, r, rfl⟩
  · simp [readWord, Comparison.all, Comparison.word, List.isPrefixOf?]
  · -- no comparison is called like a combiner
    cases k <;>
      simp [readWord, Comparison.all, Comparison.word, Combiner.word, List.isPrefixOf?]

/-- What ends a term begins with a blank, or there is nothing more. -/
theorem head?_of_endsTerm {rest : List Char} (h : EndsTerm rest) :
    ∀ c ∈ rest.head?, c = ' ' := by
  rcases h with rfl | ⟨k, r, rfl⟩
  · simp
  · simp

/-- **No text breaks out of its quotes.** The quoted form of any text is read as that text, if no
    quote follows. -/
theorem readQuoted_quoteLiteral (s : List Char) {rest : List Char}
    (hr : ∀ c ∈ rest.head?, c ≠ '\x27') :
    readQuoted (s.flatMap (fun c => if c = '\x27' then ['\x27', '\x27'] else [c])
      ++ '\x27' :: rest) = some (s, rest) := by
  induction s with
  | nil =>
    -- the quote that ends the text is not doubled by what follows it
    cases rest with
    | nil => simp [readQuoted]
    | cons c r => simp [readQuoted, hr c rfl]
  | cons c s ih =>
    rw [List.flatMap_cons, List.append_assoc]
    by_cases hc : c = '\x27'
    · subst hc
      simp only [if_pos, List.cons_append, List.nil_append, readQuoted]
      rw [ih]
      rfl
    · simp only [if_neg hc, List.cons_append, List.nil_append]
      rw [readQuoted]
      · rw [ih]
        rfl
      · simp [hc]
      · simp [hc]

/-- A text whose first word holds no parenthesis begins with no call. -/
theorem isPrefixOf?_call_of_notMem {cs : List Char} (h : '(' ∉ cs.takeWhile (· ≠ ' ')) :
    "geo.distance(".toList.isPrefixOf? cs = none := by
  cases hp : "geo.distance(".toList.isPrefixOf? cs with
  | none => rfl
  | some r =>
    refine absurd ?_ h
    rw [← List.isPrefixOf?_eq_some_iff_append_eq.mp hp,
      List.takeWhile_append_of_pos (List.all_eq_true.mp (by decide))]
    exact List.mem_append_left _ (by decide)

/-- A name has neither a blank nor the sign that opens a call, nor a comma. -/
theorem ne_of_isName {field : String} (h : isName field = true) :
    ∀ c ∈ field.toList, c ≠ ' ' ∧ c ≠ '(' ∧ c ≠ ',' := by
  intro c hc
  rw [isName, Bool.and_eq_true, List.all_eq_true] at h
  simpa [isNameChar, and_assoc] using h.2 c hc

/-- A plain text has no sign that ends it. -/
theorem ne_of_plain {cs : List Char} (h : Plain cs) :
    ∀ c ∈ cs, c ≠ ' ' ∧ c ≠ '\x27' ∧ c ≠ ')' := by
  intro c hc
  simpa [isPlain, and_assoc] using h c hc

/-- An operand is read from its text. -/
theorem readOperand_written {o : Operand} (ho : ∀ s, o = .bare s → Plain s.toList)
    {rest : List Char} (hr : EndsTerm rest) :
    readOperand (o.written.toList ++ rest) = some (o, rest) := by
  have hblank := head?_of_endsTerm hr
  cases o with
  | quoted s =>
    have hquote : ∀ c ∈ rest.head?, c ≠ '\x27' := by
      intro c hc
      rw [hblank c hc]
      decide
    simp only [Operand.written, quoteLiteral, String.toList_ofList, List.cons_append,
      List.append_assoc, List.nil_append, readOperand]
    rw [readQuoted_quoteLiteral s.toList hquote]
    simp
  | bare s =>
    have hs := ne_of_plain (ho s rfl)
    have hrun : ∀ c ∈ s.toList, c ≠ ' ' := fun c hc => (hs c hc).1
    -- no quote begins the text, neither in the operand nor after it
    have hhead : ∀ r, s.toList ++ rest ≠ '\x27' :: r := by
      intro r heq
      cases hl : s.toList with
      | nil =>
        rw [hl, List.nil_append] at heq
        exact absurd (hblank '\x27' (by rw [heq]; rfl)) (by decide)
      | cons c t =>
        rw [hl, List.cons_append, List.cons.injEq] at heq
        exact (hs c (by rw [hl]; exact List.mem_cons_self)).2.1 heq.1
    show readOperand (s.toList ++ rest) = _
    unfold readOperand
    split
    · rename_i r heq
      exact absurd heq (hhead r)
    · rw [takeWhile_run hrun hblank, dropWhile_run hrun hblank, String.ofList_toList]

/-- **Terms are read from their texts.** What follows a term in a filter is left. -/
theorem readTerm_written {t : Term} (ht : t.Readable) {rest : List Char} (hr : EndsTerm rest) :
    readTerm (t.written.toList ++ rest) = some (t, rest) := by
  have hblank := head?_of_endsTerm hr
  cases t with
  | always =>
    have hrun : ∀ c ∈ "true".toList, c ≠ ' ' :=
      List.all_iff_forall_prop.mp (by decide)
    show readTerm ("true".toList ++ rest) = _
    -- the word is the leaf and no field, since a combiner and no comparison follows
    unfold readTerm
    rw [isPrefixOf?_call_of_notMem (by rw [takeWhile_run hrun hblank]; decide)]
    simp only [takeWhile_run hrun hblank, dropWhile_run hrun hblank,
      readWord_comparison_of_endsTerm hr, if_pos]
  | comparison field c o =>
    have hname : isName field = true := by
      cases o with
      | quoted s => exact ht
      | bare s => exact ht.1
    have hplain : ∀ s, o = .bare s → Plain s.toList := by
      rintro s rfl
      exact ht.2
    have hfield := ne_of_isName hname
    have hrun : ∀ c ∈ field.toList, c ≠ ' ' := fun c hc => (hfield c hc).1
    have htext : (Term.comparison field c o).written.toList ++ rest
        = field.toList ++ ((" " ++ c.word ++ " ").toList ++ (o.written.toList ++ rest)) := by
      show (field ++ " " ++ c.word ++ " " ++ o.written).toList ++ rest = _
      simp only [String.toList_append, List.append_assoc]
    have hword : ∀ d ∈ ((" " ++ c.word ++ " ").toList ++ (o.written.toList ++ rest)).head?,
        d = ' ' := by
      simp
    rw [htext]
    unfold readTerm
    rw [isPrefixOf?_call_of_notMem
      (by rw [takeWhile_run hrun hword]; exact fun hc => (hfield _ hc).2.1 rfl)]
    simp only [takeWhile_run hrun hword, dropWhile_run hrun hword, readWord_comparison,
      readOperand_written hplain hr, Option.map_some, String.ofList_toList]
  | distance field x y c d =>
    obtain ⟨hname, hx, hy, hd⟩ := ht
    have hfield : ∀ c ∈ field.toList, c ≠ ',' := fun c hc => (ne_of_isName hname c hc).2.2
    have hx : ∀ c ∈ x.toList, c ≠ ' ' := fun c hc => (ne_of_plain hx c hc).1
    have hy : ∀ c ∈ y.toList, c ≠ ')' := fun c hc => (ne_of_plain hy c hc).2.2
    have hd : ∀ c ∈ d.toList, c ≠ ' ' := fun c hc => (ne_of_plain hd c hc).1
    have htext : (Term.distance field x y c d).written.toList ++ rest
        = "geo.distance(".toList ++ (field.toList ++ (", geography'POINT(".toList
          ++ (x.toList ++ (" ".toList ++ (y.toList ++ (")')".toList
          ++ ((" " ++ c.word ++ " ").toList ++ (d.toList ++ rest)))))))) := by
      show ("geo.distance(" ++ field ++ ", geography'POINT(" ++ x ++ " " ++ y ++ ")')"
        ++ " " ++ c.word ++ " " ++ d).toList ++ rest = _
      simp only [String.toList_append, List.append_assoc]
    rw [htext]
    -- each part ends at the first character that the next one begins with
    simp only [readTerm, isPrefixOf?_append, readDistance]
    rw [takeWhile_run hfield (by simp), dropWhile_run hfield (by simp), isPrefixOf?_append]
    simp only [Option.bind_eq_bind, Option.bind_some]
    rw [takeWhile_run hx (by simp), dropWhile_run hx (by simp), isPrefixOf?_append]
    simp only [Option.bind_some]
    rw [takeWhile_run hy (by simp), dropWhile_run hy (by simp), isPrefixOf?_append]
    simp only [Option.bind_some, readWord_comparison]
    rw [takeWhile_run hd hblank, dropWhile_run hd hblank]
    simp

/-! ### Reading chains -/

/-- The rest of a chain begins where a term ends. -/
theorem endsTerm_restText (r : List (Combiner × Term)) :
    EndsTerm (Chain.restText (r.map fun p => (p.1, p.2.written))).toList := by
  cases r with
  | nil => exact .inl rfl
  | cons p r =>
    refine .inr ⟨p.1, p.2.written.toList ++
      (Chain.restText (r.map fun p => (p.1, p.2.written))).toList, ?_⟩
    simp [Chain.restText]

/-- Combiners and terms are read one after the other. -/
theorem readRest_restText (r : List (Combiner × Term)) (hr : ∀ p ∈ r, p.2.Readable) :
    readRest (Chain.restText (r.map fun p => (p.1, p.2.written))).toList = some r := by
  -- induction on the links: each of them is read off the front, and the rest is what is left
  induction r with
  | nil =>
    unfold readRest
    rfl
  | cons p r ih =>
    have hlink : readLink (Chain.restText ((p :: r).map fun p => (p.1, p.2.written))).toList
        = some (p, (Chain.restText (r.map fun p => (p.1, p.2.written))).toList) := by
      have htext : (Chain.restText ((p :: r).map fun p => (p.1, p.2.written))).toList
          = (" " ++ p.1.word ++ " ").toList ++ (p.2.written.toList
            ++ (Chain.restText (r.map fun p => (p.1, p.2.written))).toList) := by
        simp [Chain.restText]
      rw [htext, readLink, readWord_combiner]
      simp only [Option.bind_eq_bind, Option.bind_some]
      rw [readTerm_written (hr p List.mem_cons_self) (endsTerm_restText r)]
      rfl
    -- there is something to be read, so the reader does not stop here
    have hne : (Chain.restText ((p :: r).map fun p => (p.1, p.2.written))).toList.isEmpty
        = false := by
      simp [Chain.restText]
    have hrest := ih fun q hq => hr q (List.mem_cons_of_mem p hq)
    rw [readRest, hne]
    simp only [Bool.false_eq_true, if_false]
    split
    · rename_i hnone
      rw [hlink] at hnone
      exact absurd hnone (by simp)
    · rename_i q rest hsome
      rw [hlink] at hsome
      obtain ⟨rfl, rfl⟩ := Prod.mk.inj (Option.some.inj hsome)
      rw [hrest]
      rfl

/-- **Chains are read from their texts.** -/
theorem readTerms_text (s : Chain Term) (hs : ∀ t ∈ s.links, t.Readable) :
    readTerms (s.map Term.written).text = some s := by
  have hfirst : s.first.Readable := hs s.first List.mem_cons_self
  have hrest : ∀ p ∈ s.rest, p.2.Readable :=
    fun p hp => hs p.2 (Chain.mem_links_of_mem_rest hp)
  simp only [readTerms, Chain.text, Chain.map, String.toList_append]
  rw [readTerm_written hfirst (endsTerm_restText s.rest)]
  simp only [Option.bind_eq_bind, Option.bind_some]
  rw [readRest_restText s.rest hrest]
  rfl

/-! ### Reading filters -/

/-- The operand for a literal: a text is quoted, any other literal is as it is written. -/
def Literal.operand : Literal → Operand
  | .text s => .quoted s
  | l => .bare l.written

/-- A coordinate or a distance as it is written; there is no text for a value that cannot be. -/
def numberText (v : Value) : String := (fixed v).toOption.getD ""

namespace Filter

/-- The term for a leaf. -/
def term : Filter → Term
  | field f =>
    match f.literal with
    | none => .always
    | some l => .comparison f.field.plain f.comparison l.operand
  | distance g =>
    .distance g.field.plain (numberText g.longitude) (numberText g.latitude) g.comparison
      (numberText g.distance)
  | _ => .always

/-- The leaves of a filter from left to right, with the combiners between them, as terms. -/
def terms (f : Filter) : Chain Term := f.inOrder.map term

/-- The terms of a join are those of its sides with the combiner between them. -/
theorem terms_joined (l r : Filter) (c : Combiner) :
    (joined l c r).terms = l.terms.append c r.terms := by
  rw [terms, inOrder, Chain.map_append]
  rfl

/-- Whether a value is the name of a field. -/
def isFieldName : Value → Bool
  | .text s => isName s
  | _ => false

/-- Whether a value is a double. -/
def isDouble : Value → Bool
  | .real _ => true
  | _ => false

/-- Whether a filter compares nothing but named fields, and distances given as doubles. -/
def readable : Filter → Bool
  | field f => f.literal.isNone || isFieldName f.field
  | distance g =>
    isFieldName g.field && isDouble g.longitude && isDouble g.latitude && isDouble g.distance
  | joined left _ right => left.readable && right.readable
  | sortKey _ => false
  | value _ => false

/-- A field name is written as a name. -/
theorem plain_eq_of_isFieldName {v : Value} (h : isFieldName v = true) :
    isName v.plain = true := by
  cases v <;> simp_all [isFieldName, Value.plain]

/-- A double is written with six places. -/
theorem fixedIn_of_isDouble {v : Value} (h : isDouble v = true) :
    fixedIn v = .ok (numberText v) ∧ Plain (numberText v).toList := by
  cases v with
  | real x => exact ⟨rfl, plain_fixedText x⟩
  | _ => simp [isDouble] at h

/-- The terms of a readable filter can be told apart by their texts. -/
theorem readable_terms {f : Filter} (hf : f.readable = true) :
    ∀ t ∈ f.terms.links, t.Readable := by
  induction f with
  | joined l c r ihl ihr =>
    rw [readable, Bool.and_eq_true] at hf
    intro t ht
    rw [terms_joined, Chain.links_append, List.mem_append] at ht
    rcases ht with ht | ht
    · exact ihl hf.1 t ht
    · exact ihr hf.2 t ht
  | field f =>
    intro t ht
    obtain rfl := List.mem_singleton.mp ht
    obtain ⟨v, c, literal⟩ := f
    cases literal with
    | none => trivial
    | some l =>
      -- a name is read as it is written, and a literal other than a text up to the blank behind it
      have hname : isName v.plain = true := plain_eq_of_isFieldName hf
      cases l with
      | text s => exact hname
      | bool b => exact ⟨hname, plain_written (.bool b) (by simp)⟩
      | int n => exact ⟨hname, plain_written (.int n) (by simp)⟩
      | real x => exact ⟨hname, plain_written (.real x) (by simp)⟩
      | dateTime d => exact ⟨hname, plain_written (.dateTime d) (by simp)⟩
  | distance g =>
    intro t ht
    obtain rfl := List.mem_singleton.mp ht
    simp only [readable, Bool.and_eq_true] at hf
    obtain ⟨⟨⟨hname, hx⟩, hy⟩, hd⟩ := hf
    exact ⟨plain_eq_of_isFieldName hname, (fixedIn_of_isDouble hx).2, (fixedIn_of_isDouble hy).2,
      (fixedIn_of_isDouble hd).2⟩
  | sortKey k => simp [readable] at hf
  | value v => simp [readable] at hf

/-! ### Filters that have a text -/

/-- What the fields in a filter are compared with, from left to right. -/
def literals : Filter → List Literal
  | field f => f.literal.toList
  | joined l _ r => l.literals ++ r.literals
  | distance _ | sortKey _ | value _ => []

/-- The name of a field has a text. -/
theorem plainFaults_of_isFieldName {v : Value} (h : isFieldName v = true) : v.plainFaults = [] := by
  cases v with
  | text s => rfl
  | _ => cases h

/-- A double has a text of six decimals. -/
theorem fixedFault?_of_isDouble {v : Value} (h : isDouble v = true) : fixedFault? v = none := by
  cases v with
  | real x => rfl
  | _ => cases h

/-- **A readable filter has a text exactly if all its literals have one.** Names and distances, given
    as doubles, always have. -/
theorem exists_compile_iff {f : Filter} (hf : f.readable = true) :
    (∃ s, f.compile = .ok s) ↔ ∀ l ∈ f.literals, l.CanBeWritten := by
  rw [exists_compile_eq_ok_iff]
  -- induction on the filter: a readable leaf has no fault but a literal that cannot be written
  induction f with
  | joined l c r ihl ihr =>
    rw [readable, Bool.and_eq_true] at hf
    rw [leaves_joined, literals, List.forall_mem_append, List.forall_mem_append, ihl hf.1,
      ihr hf.2]
  | field f =>
    refine List.forall_mem_singleton.trans ?_
    obtain ⟨v, c, literal⟩ := f
    cases literal with
    | none => exact iff_of_true (fun _ h => by cases h) (List.forall_mem_nil _)
    | some l =>
      show (∀ k ∈ some l, v.plainFaults = [] ∧ k.CanBeWritten) ↔ ∀ k ∈ [l], k.CanBeWritten
      simp [plainFaults_of_isFieldName (show isFieldName v = true from hf)]
  | distance g =>
    refine List.forall_mem_singleton.trans ?_
    simp only [readable, Bool.and_eq_true] at hf
    obtain ⟨⟨⟨hname, hx⟩, hy⟩, hd⟩ := hf
    exact iff_of_true ⟨plainFaults_of_isFieldName hname, fixedFault?_of_isDouble hx,
      fixedFault?_of_isDouble hy, fixedFault?_of_isDouble hd⟩ (List.forall_mem_nil _)
  | sortKey k => simp [readable] at hf
  | value v => simp [readable] at hf

/-- The text of a readable filter is the chain of its terms. -/
theorem eq_text_of_compile {f : Filter} (hf : f.readable = true) {s : String}
    (hs : f.compile = .ok s) : s = (f.terms.map Term.written).text := by
  -- induction on the filter; a joined one is written as the chain of its operands
  induction f generalizing s with
  | joined l c r ihl ihr =>
    rw [readable, Bool.and_eq_true] at hf
    obtain ⟨a, b, ha, hb, rfl⟩ := compile_joined_eq_ok_iff.mp hs
    rw [ihl hf.1 ha, ihr hf.2 hb, terms_joined, Chain.map_append, Chain.text_append]
  | field f =>
    rw [← (compile_field_eq_ok_iff.mp hs).2]
    obtain ⟨v, c, literal⟩ := f
    show _ = (Chain.single (field ⟨v, c, literal⟩).term.written).text
    rw [Chain.text_single]
    cases literal with
    | none => rfl
    | some l => cases l <;> rfl
  | distance g =>
    have hs := (compile_distance_eq_ok_iff.mp hs).2
    simp only [readable, Bool.and_eq_true] at hf
    obtain ⟨⟨⟨-, hx⟩, hy⟩, hd⟩ := hf
    simp only [DistanceFilter.compile, distanceCall, (fixedIn_of_isDouble hx).1,
      (fixedIn_of_isDouble hy).1, (fixedIn_of_isDouble hd).1] at hs
    rw [← Except.ok.inj hs]
    show _ = (Chain.single (distance g).term.written).text
    rw [Chain.text_single]
    rfl
  | sortKey k => simp [readable] at hf
  | value v => simp [readable] at hf

/-- The text of a readable filter is read as its leaves and combiners. -/
theorem readTerms_of_compile {f : Filter} (hf : f.readable = true) {s : String}
    (hs : f.compile = .ok s) : readTerms s = some f.terms := by
  rw [eq_text_of_compile hf hs, readTerms_text f.terms (readable_terms hf)]

/-- **Filters are read back as they were built.** A filter has a text if what its fields are compared
    with has. The reader takes the whole text and finds the leaves from left to right — fields,
    comparisons, the very texts that fields are compared with — and the combiners between them. So
    filters have the same text exactly if these agree, however the leaves are nested. -/
theorem reads_back (f : Filter) (hf : f.readable = true) :
    ((∃ s, f.compile = .ok s) ↔ ∀ l ∈ f.literals, l.CanBeWritten) ∧
    (∀ s, f.compile = .ok s → readTerms s = some f.terms) ∧
    ∀ g : Filter, g.readable = true → ∀ s t, f.compile = .ok s → g.compile = .ok t →
      (s = t ↔ f.terms = g.terms) := by
  refine ⟨exists_compile_iff hf, fun s => readTerms_of_compile hf, ?_⟩
  intro g hg s t hs ht
  constructor
  · rintro rfl
    have hread := readTerms_of_compile hf hs
    rw [readTerms_of_compile hg ht] at hread
    exact (Option.some.inj hread).symm
  · intro h
    rw [eq_text_of_compile hf hs, eq_text_of_compile hg ht, h]

/-- A field that is called like the leaf that holds of everything, compared with a text full of
    quotes and operators, before that leaf and a distance; nesting to the other side gives the same
    text. -/
theorem reads_back_quotes :
    let field : Filter := .field ⟨.text "true", .eq, some (.text "' or 'a'' eq 'b' and '")⟩
    let near : Filter := .distance ⟨.text "and", .real (.zero true), .real .nan, .le,
      .real (.infinite true)⟩
    let left := joined (joined field .and identity) .or near
    let right := joined field .and (joined identity .or near)
    (left.readable = true ∧ right.readable = true) ∧
      (∃ s, left.compile = .ok s ∧ readTerms s = some left.terms) ∧
        ∃ s, left.compile = .ok s ∧ right.compile = .ok s := by
  intro field near left right
  have hl : left.readable = true := by decide
  have hr : right.readable = true := by decide
  have hwritten : ∀ l ∈ [Literal.text "' or 'a'' eq 'b' and '"], l.CanBeWritten :=
    List.forall_mem_singleton.mpr trivial
  obtain ⟨s, hs⟩ := (reads_back left hl).1.mpr hwritten
  obtain ⟨t, ht⟩ := (reads_back right hr).1.mpr hwritten
  -- the two nestings have the same terms, hence one text
  obtain rfl : s = t := ((reads_back left hl).2.2 right hr s t hs ht).mpr rfl
  exact ⟨⟨hl, hr⟩, ⟨s, hs, (reads_back left hl).2.1 s hs⟩, s, hs, ht⟩

/-- A named field compared with a whole number of 4301 digits is readable, and has no text to be
    read. -/
theorem not_reads_back_long :
    let f : Filter := .field ⟨.text "Age", .eq, some (.int (10 ^ 4300))⟩
    f.readable = true ∧ f.compile = .error (.unwritten .tooLong)
      ∧ ¬ ∃ s, f.compile = .ok s ∧ readTerms s = some f.terms := by
  intro f
  have hf : f.compile = .error (.unwritten .tooLong) :=
    compile_field_of_long "Age" .eq isShort_ten_pow
  refine ⟨by decide, hf, ?_⟩
  rintro ⟨s, hs, -⟩
  cases hf.symm.trans hs

end Filter

end IndexSearch
