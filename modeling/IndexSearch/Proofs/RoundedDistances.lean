import IndexSearch.Proofs.DistanceTexts
import IndexSearch.Proofs.JsonNumbers
import Mathlib.Algebra.Order.Field.Basic
import Mathlib.Algebra.Order.Ring.Abs
import Mathlib.Algebra.Order.Ring.Rat
import Mathlib.Algebra.Ring.Parity
import Mathlib.Tactic.FieldSimp
import Mathlib.Tactic.Linarith
import Mathlib.Tactic.Push

namespace IndexSearch

open Number

/-!
# How distances are rounded

The text of a finite double is that of the multiple of a millionth nearest to its exact value: no
digits of its exact expansion are dropped before the decision, and of two multiples that are equally
near the even one is taken. Whatever rounds in this way is off by half a millionth at most and keeps
the order of numbers, so this holds of all texts of coordinates and distances.

* `IsNearestMillionth` — the multiple that is nearest, `IsNearestMillionth.error` — how far it can
  be, `IsNearestMillionth.le` — it keeps the order;
* `Binary64.isRoundedAs_fixedText` — the text of a finite double;
* `distances_rounded` — the numbers in the texts of filters and of sort clauses.
-/

/-! ### The nearest multiple -/

/-- **The multiple of a millionth nearest to a number**, given by the count of millionths; of two
    that are equally near, the even one. -/
structure IsNearestMillionth (k : Int) (q : Rat) : Prop where
  /-- No other multiple is nearer. -/
  nearest : ∀ j : Int, |(k : Rat) / 1000000 - q| ≤ |(j : Rat) / 1000000 - q|
  /-- If another one is as near, this one is even. -/
  even : ∀ j : Int, j ≠ k → |(k : Rat) / 1000000 - q| = |(j : Rat) / 1000000 - q| → Even k

namespace IsNearestMillionth

variable {k l : Int} {p q : Rat}

/-- A multiple within half a millionth is the nearest one, if it is even where it is off by the
    whole half. -/
theorem of_near (hnear : |(k : Rat) / 1000000 - q| ≤ 5 / 10000000)
    (heven : |(k : Rat) / 1000000 - q| = 5 / 10000000 → Even k) : IsNearestMillionth k q := by
  have hother : ∀ j : Int, j ≠ k → 5 / 10000000 ≤ |(j : Rat) / 1000000 - q| := by
    intro j hj
    -- two multiples are a millionth apart at least
    have hapart : (1 : Rat) ≤ |(j : Rat) - k| := by
      exact_mod_cast Int.one_le_abs (sub_ne_zero.mpr hj)
    have hsplit : (j : Rat) - k
        = 1000000 * ((j : Rat) / 1000000 - q - ((k : Rat) / 1000000 - q)) := by ring
    rw [hsplit, abs_mul, abs_of_pos (by norm_num)] at hapart
    have hsum := abs_sub ((j : Rat) / 1000000 - q) ((k : Rat) / 1000000 - q)
    linarith
  constructor
  · intro j
    by_cases hj : j = k
    · rw [hj]
    · exact hnear.trans (hother j hj)
  · intro j hj htie
    exact heven (le_antisymm hnear (htie ▸ hother j hj))

/-- The nearest multiple is off by half a millionth at most. -/
theorem error (h : IsNearestMillionth k q) : |(k : Rat) / 1000000 - q| ≤ 5 / 10000000 := by
  have hnext := h.nearest (k + 1)
  have hbefore := h.nearest (k - 1)
  push_cast at hnext hbefore
  rcases le_total 0 ((k : Rat) / 1000000 - q) with hsign | hsign
  · -- the multiple is above the number, so the one before it is compared
    rw [abs_of_nonneg hsign] at hbefore ⊢
    rcases abs_cases (((k : Rat) - 1) / 1000000 - q) with ⟨habs, hsign'⟩ | ⟨habs, hsign'⟩ <;> linarith
  · rw [abs_of_nonpos hsign] at hnext ⊢
    rcases abs_cases (((k : Rat) + 1) / 1000000 - q) with ⟨habs, hsign'⟩ | ⟨habs, hsign'⟩ <;> linarith

/-- **The nearest multiples of two numbers are in the order of the numbers.** -/
theorem le (hk : IsNearestMillionth k p) (hl : IsNearestMillionth l q) (hle : p ≤ q) : k ≤ l := by
  by_contra hlt
  rw [not_le] at hlt
  have hstep : (l : Rat) + 1 ≤ k := by exact_mod_cast hlt
  -- both numbers would have to be in the middle between the multiples
  have hp := hk.nearest l
  have hq := hl.nearest k
  have hpmiddle : ((k : Rat) + l) / 2000000 ≤ p := by
    rcases abs_cases ((k : Rat) / 1000000 - p) with ⟨ha, hsign⟩ | ⟨ha, hsign⟩ <;>
      rcases abs_cases ((l : Rat) / 1000000 - p) with ⟨hb, hsign'⟩ | ⟨hb, hsign'⟩ <;> linarith
  have hqmiddle : q ≤ ((k : Rat) + l) / 2000000 := by
    rcases abs_cases ((k : Rat) / 1000000 - q) with ⟨ha, hsign⟩ | ⟨ha, hsign⟩ <;>
      rcases abs_cases ((l : Rat) / 1000000 - q) with ⟨hb, hsign'⟩ | ⟨hb, hsign'⟩ <;> linarith
  obtain rfl : p = q := le_antisymm hle (hqmiddle.trans hpmiddle)
  have hmiddle : p = ((k : Rat) + l) / 2000000 := le_antisymm hqmiddle hpmiddle
  have hhalf := (abs_le.mp hk.error).2
  -- so they are neighbours, and not both are even
  have hnext : k = l + 1 := by
    have hupper : (k : Rat) ≤ l + 1 := by linarith
    have hupper' : k ≤ l + 1 := by exact_mod_cast hupper
    omega
  have htie : |(k : Rat) / 1000000 - p| = |(l : Rat) / 1000000 - p| := le_antisymm hp hq
  have hkeven := hk.even l (by omega) htie
  have hleven := hl.even k (by omega) htie.symm
  obtain ⟨a, ha⟩ := hkeven
  obtain ⟨b, hb⟩ := hleven
  omega

/-- The nearest of the opposite is the opposite of the nearest. -/
theorem neg (h : IsNearestMillionth k q) : IsNearestMillionth (-k) (-q) := by
  have hflip : ∀ j : Int, |(j : Rat) / 1000000 - -q| = |((-j : Int) : Rat) / 1000000 - q| := by
    intro j
    rw [← abs_neg]
    push_cast
    ring_nf
  constructor
  · intro j
    rw [hflip, hflip j, neg_neg]
    exact h.nearest (-j)
  · intro j hj htie
    rw [hflip, hflip j, neg_neg] at htie
    exact (h.even (-j) (fun heq => hj (by omega)) htie).neg

end IsNearestMillionth

/-! ### Texts of doubles -/

/-- The number that a text stands for. -/
def valueOfNumeral? (s : String) : Option Rat := (Numeral.ofChars? s.toList).map Numeral.toRat

/-- A count with a sign. -/
def signed (negative : Bool) (n : Nat) : Int := if negative then -(n : Int) else n

/-- A text with its sign, as the reader of numbers sees it. -/
theorem toList_signText (negative : Bool) (s : String) :
    ((if negative then "-" else "") ++ s).toList = Json.signChars negative ++ s.toList := by
  rw [String.toList_append]
  cases negative <;> rfl

/-- The text of a count of millionths stands for these millionths. -/
theorem valueOfNumeral?_millionthsText (negative : Bool) (n : Nat) :
    valueOfNumeral? ((if negative then "-" else "") ++ Binary64.millionthsText n)
      = some ((signed negative n : Rat) / 1000000) := by
  have hplaces : n % 1000000 < 10 ^ 6 := Nat.mod_lt n (by decide)
  have hlength : (padded 6 (n % 1000000)).toList.length = 6 := length_padded (by decide) hplaces
  have hdigits : ∀ c ∈ (padded 6 (n % 1000000)).toList, c.isDigit = true :=
    fun c hc => isDigit_of_mem_padded hc
  have hvalue : ofDigits (digits (n / 1000000) ++ (padded 6 (n % 1000000)).toList) = n := by
    rw [ofDigits_append, hlength, ofDigits_padded, ofDigits_digits]
    omega
  have htext : ((if negative then "-" else "") ++ Binary64.millionthsText n).toList
      = Json.signChars negative
        ++ (digits (n / 1000000) ++ '.' :: (padded 6 (n % 1000000)).toList) := by
    rw [toList_signText]
    simp only [Binary64.millionthsText, String.toList_append, toList_toString, List.append_assoc]
    rfl
  -- the digits matter no more, but for how many there are and what they stand for
  generalize (padded 6 (n % 1000000)).toList = places at hlength hdigits hvalue htext
  have hne : places.isEmpty = false := by
    rw [List.isEmpty_eq_false_iff]
    exact List.ne_nil_of_length_pos (by omega)
  have hwell : Layout.WellFormed ⟨digits (n / 1000000), places, none⟩ :=
    ⟨isWhole_digits _, hdigits, fun hnil => absurd hne (by rw [show places = [] from hnil]; decide)⟩
  have hchars : Layout.chars ⟨digits (n / 1000000), places, none⟩
      = digits (n / 1000000) ++ '.' :: places := by
    simp only [Layout.chars, Layout.fractionChars, Layout.exponentChars, hne, Bool.false_eq_true,
      if_false, List.append_nil]
  have hnumeral : Layout.numeral negative ⟨digits (n / 1000000), places, none⟩
      = ⟨negative, n, Int.negSucc 5⟩ := by
    simp only [Layout.numeral, hvalue, hlength]
    rfl
  rw [valueOfNumeral?, htext, ← hchars, Json.ofChars?_layout negative hwell, hnumeral]
  exact congrArg some (Rat.mkRat_eq_div _ _)

/-- Rounding a quotient gives the nearest count of millionths. -/
theorem isNearestMillionth_roundHalfEven (n : Nat) {d : Nat} (hd : 0 < d) :
    IsNearestMillionth (roundHalfEven (n * 1000000) d) ((n : Rat) / d) := by
  have hpos : (0 : Rat) < d := by exact_mod_cast hd
  obtain ⟨hlow, hhigh⟩ := roundHalfEven_near (n * 1000000) hd
  have htie := roundHalfEven_tie (n := n * 1000000) hd
  generalize roundHalfEven (n * 1000000) d = k at hlow hhigh htie ⊢
  -- the difference over the common denominator
  have hdifference : ((k : Int) : Rat) / 1000000 - (n : Rat) / d
      = ((k : Rat) * d - n * 1000000) / (1000000 * d) := by
    rw [Int.cast_natCast]
    field_simp
  have hscale : (5 : Rat) / 10000000 = (d / 2) / (1000000 * d) := by
    field_simp
    norm_num
  have hlow' : 2 * ((n : Rat) * 1000000) ≤ 2 * (k * d) + d := by exact_mod_cast hlow
  have hhigh' : 2 * ((k : Rat) * d) ≤ 2 * (n * 1000000) + d := by exact_mod_cast hhigh
  have hden : (0 : Rat) < 1000000 * d := by linarith
  apply IsNearestMillionth.of_near
  · rw [hdifference, hscale, abs_div, abs_of_pos hden, div_le_div_iff_of_pos_right hden, abs_le]
    constructor <;> linarith
  · intro heq
    rw [hdifference, hscale, abs_div, abs_of_pos hden, div_left_inj' hden.ne'] at heq
    have heven : k % 2 = 0 := by
      apply htie
      rcases abs_cases ((k : Rat) * d - n * 1000000) with ⟨habs, -⟩ | ⟨habs, -⟩
      · left
        have hhalf : 2 * ((k : Rat) * d) = 2 * (n * 1000000) + d := by linarith
        exact_mod_cast hhalf
      · right
        have hhalf : 2 * ((k : Rat) * d) + d = 2 * (n * 1000000) := by linarith
        exact_mod_cast hhalf
    exact_mod_cast Nat.even_iff.mpr heven

namespace Number.Binary64

/-- Whether the sign of a double is a minus, be it that of a zero. -/
def isNegative : Binary64 → Bool
  | nan => false
  | infinite negative | finite negative _ _ _ => negative

/-- **Whether a text is that of a double with six decimal places**: it has the sign of the double,
    and stands for the multiple of a millionth nearest to its exact value, which is off by half a
    millionth at most. -/
structure IsRoundedAs (x : Binary64) (s : String) : Prop where
  /-- There are six decimal places. -/
  sixPlaces : SixPlaces s
  /-- There is a minus sign exactly if the double has one. -/
  sign : s.toList.head? = some '-' ↔ x.isNegative = true
  /-- The text stands for the nearest multiple. -/
  nearest : ∃ (q : Rat) (k : Int), x.toRat? = some q
    ∧ valueOfNumeral? s = some ((k : Rat) / 1000000)
    ∧ IsNearestMillionth k q ∧ |(k : Rat) / 1000000 - q| ≤ 5 / 10000000

/-- A finite double is a number of units, with its sign. -/
theorem toRat?_finite (negative : Bool) (m e : Nat) (h : Canonical m e) :
    (finite negative m e h).toRat?
      = some (mkRat (signed negative (unitCount m e)) unitsPerOne) := by
  rw [toRat?]
  rfl

/-- **The text of a finite double** is the nearest one with six decimal places. -/
theorem isRoundedAs_fixedText {x : Binary64} {q : Rat} (hx : x.toRat? = some q) :
    x.IsRoundedAs x.fixedText := by
  cases x with
  | nan => cases hx
  | infinite negative => cases hx
  | finite negative m e hcanonical =>
    have hnearest := isNearestMillionth_roundHalfEven (unitCount m e) unitsPerOne_pos
    have hsigned : IsNearestMillionth (signed negative (millionths m e)) q := by
      rw [toRat?_finite] at hx
      rw [← Option.some.inj hx, Rat.mkRat_eq_div]
      cases negative with
      | true =>
        rw [signed, signed, if_pos rfl, if_pos rfl, Int.cast_neg, Int.cast_natCast, neg_div]
        exact hnearest.neg
      | false =>
        rw [signed, signed, if_neg Bool.false_ne_true, if_neg Bool.false_ne_true, Int.cast_natCast]
        exact hnearest
    refine ⟨sixPlaces_millionthsText negative _, ?_, q, signed negative (millionths m e), hx,
      valueOfNumeral?_millionthsText negative _, hsigned, hsigned.error⟩
    -- a text without a sign begins with a digit
    obtain ⟨d, r, hd⟩ := List.exists_cons_of_ne_nil (digits_ne_nil (millionths m e / 1000000))
    have hdigit : d.isDigit = true := isDigit_of_mem_digits (hd ▸ List.mem_cons_self)
    have hfirst : (millionthsText (millionths m e)).toList.head? = some d := by
      simp only [millionthsText, String.toList_append, toList_toString, hd]
      rfl
    rw [fixedText, toList_signText]
    cases negative with
    | true =>
      rw [Json.signChars, if_pos rfl, List.cons_append, List.head?_cons]
      exact iff_of_true rfl rfl
    | false =>
      rw [Json.signChars, if_neg Bool.false_ne_true, List.nil_append, hfirst]
      refine iff_of_false (fun h => ?_) Bool.noConfusion
      rw [Option.some.inj h] at hdigit
      revert hdigit
      decide

/-- What is rounded keeps the order of the exact values. -/
theorem IsRoundedAs.le {x y : Binary64} {s t : String} {p q : Rat} (hs : x.IsRoundedAs s)
    (ht : y.IsRoundedAs t) (hx : x.toRat? = some p) (hy : y.toRat? = some q) (hle : p ≤ q) :
    ∃ u v, valueOfNumeral? s = some u ∧ valueOfNumeral? t = some v ∧ u ≤ v := by
  obtain ⟨p', k, hp', hk, hknearest, -⟩ := hs.nearest
  obtain ⟨q', l, hq', hl, hlnearest, -⟩ := ht.nearest
  obtain rfl : p = p' := Option.some.inj (hx.symm.trans hp')
  obtain rfl : q = q' := Option.some.inj (hy.symm.trans hq')
  have hcounts : (k : Rat) ≤ l := by exact_mod_cast hknearest.le hlnearest hle
  exact ⟨_, _, hk, hl, by linarith⟩

end Number.Binary64

/-! ### Distances -/

/-- Whether a text is the one that a value should have if it is a finite double. -/
def Value.IsRoundedAs (v : Value) (s : String) : Prop :=
  ∀ x : Binary64, v = .real x → x.toRat?.isSome = true → x.IsRoundedAs s

/-- **A number with six decimals is written as its nearest millionth.** -/
theorem Value.isRoundedAs_of_fixed {v : Value} {s : String} (h : fixed v = .ok s) :
    v.IsRoundedAs s := by
  rintro x rfl hx
  obtain ⟨q, hq⟩ := Option.isSome_iff_exists.mp hx
  rw [← Except.ok.inj h]
  exact Binary64.isRoundedAs_fixedText hq

/-- The text of a filter on a distance is made of the texts of its numbers. -/
theorem DistanceFilter.compile_eq_ok_iff {g : DistanceFilter} {s : String} :
    g.compile = .ok s ↔ ∃ x y d, fixed g.longitude = .ok x ∧ fixed g.latitude = .ok y
      ∧ fixed g.distance = .ok d
      ∧ s = "geo.distance(" ++ g.field.plain ++ ", geography'POINT(" ++ x ++ " " ++ y ++ ")')"
        ++ " " ++ g.comparison.word ++ " " ++ d := by
  simp only [DistanceFilter.compile, bind_eq_ok_iff, fixedIn_eq_ok_iff, distanceCall_eq_ok_iff]
  constructor
  · rintro ⟨call, ⟨x, y, hx, hy, rfl⟩, d, hd, hs⟩
    exact ⟨x, y, d, hx, hy, hd, (Except.ok.inj hs).symm⟩
  · rintro ⟨x, y, d, hx, hy, hd, rfl⟩
    exact ⟨_, ⟨x, y, hx, hy, rfl⟩, d, hd, rfl⟩

/-- The clause of a sort key on a distance is made of the texts of its coordinates. -/
theorem SortKey.clause_byDistance_eq_ok_iff {longitude latitude field : Value}
    {direction : Direction} {s : String} :
    (byDistance longitude latitude direction field).clause = .ok s ↔
      ∃ x y, fixed longitude = .ok x ∧ fixed latitude = .ok y
        ∧ s = "geo.distance(" ++ field.plain ++ ", geography'POINT(" ++ x ++ " " ++ y ++ ")')"
          ++ " " ++ direction.word := by
  simp only [SortKey.clause, bind_eq_ok_iff, distanceCall_eq_ok_iff]
  constructor
  · rintro ⟨call, ⟨x, y, hx, hy, rfl⟩, hs⟩
    exact ⟨x, y, hx, hy, (Except.ok.inj hs).symm⟩
  · rintro ⟨x, y, hx, hy, rfl⟩
    exact ⟨_, ⟨x, y, hx, hy, rfl⟩, rfl⟩

/-- **Coordinates and distances are correctly rounded.** Wherever a finite double stands in the text
    of a filter on a distance or in the clause of a sort key, it stands there as the nearest
    multiple of a millionth, a half going to the even one, with the sign of the double; so it is off
    by half a millionth at most. Doubles in all places have such a text, and texts of two doubles
    stand for numbers in the order of the doubles. -/
theorem distances_rounded (field longitude latitude : Value) :
    (∀ comparison distance s,
      (DistanceFilter.mk field longitude latitude comparison distance).compile = .ok s →
        ∃ x y d, s = "geo.distance(" ++ field.plain ++ ", geography'POINT(" ++ x ++ " " ++ y
            ++ ")')" ++ " " ++ comparison.word ++ " " ++ d
          ∧ longitude.IsRoundedAs x ∧ latitude.IsRoundedAs y ∧ distance.IsRoundedAs d)
      ∧ (∀ direction s, (SortKey.byDistance longitude latitude direction field).clause = .ok s →
        ∃ x y, s = "geo.distance(" ++ field.plain ++ ", geography'POINT(" ++ x ++ " " ++ y
            ++ ")')" ++ " " ++ direction.word
          ∧ longitude.IsRoundedAs x ∧ latitude.IsRoundedAs y)
      ∧ (∀ x y d : Binary64, longitude = .real x → latitude = .real y →
        (∀ comparison, ∃ s,
          (DistanceFilter.mk field longitude latitude comparison (.real d)).compile = .ok s)
        ∧ ∀ direction, ∃ s,
          (SortKey.byDistance longitude latitude direction field).clause = .ok s)
      ∧ ∀ (x y : Binary64) (s t : String) (p q : Rat), x.IsRoundedAs s → y.IsRoundedAs t →
        x.toRat? = some p → y.toRat? = some q → p ≤ q →
          ∃ u v, valueOfNumeral? s = some u ∧ valueOfNumeral? t = some v ∧ u ≤ v := by
  refine ⟨fun comparison distance s h => ?_, fun direction s h => ?_, ?_,
    fun x y s t p q hs ht => hs.le ht⟩
  · obtain ⟨x, y, d, hx, hy, hd, hs⟩ := DistanceFilter.compile_eq_ok_iff.mp h
    exact ⟨x, y, d, hs, Value.isRoundedAs_of_fixed hx, Value.isRoundedAs_of_fixed hy,
      Value.isRoundedAs_of_fixed hd⟩
  · obtain ⟨x, y, hx, hy, hs⟩ := SortKey.clause_byDistance_eq_ok_iff.mp h
    exact ⟨x, y, hs, Value.isRoundedAs_of_fixed hx, Value.isRoundedAs_of_fixed hy⟩
  · -- floats are always written, the special ones too
    rintro x y d rfl rfl
    exact ⟨fun comparison => ⟨_, DistanceFilter.compile_eq_ok_iff.mpr ⟨_, _, _, rfl, rfl, rfl, rfl⟩⟩,
      fun direction => ⟨_, SortKey.clause_byDistance_eq_ok_iff.mpr ⟨_, _, rfl, rfl, rfl⟩⟩⟩

/-- Halves of a millionth: one goes down and one up, both to an even last digit. -/
example : (DistanceFilter.mk (.text "Geo") (.real (.ofRatio false 1 128))
      (.real (.ofRatio true 3 128)) .lt (.real (.ofRatio true 1 3000000))).compile.toOption
    = some "geo.distance(Geo, geography'POINT(0.007812 -0.023438)') lt -0.000000" := by
  decide +kernel

/-- The coordinates of a filter and of a sort key, both of them a half between two millionths, and
    the order in which they stand. -/
theorem distances_rounded_halves :
    let x := Binary64.ofRatio true 3 128
    let y := Binary64.ofRatio false 1 128
    let call (s t : String) := "geo.distance(Geo" ++ ", geography'POINT(" ++ s ++ " " ++ t ++ ")')"
    x.toRat? = some (-3 / 128) ∧ y.toRat? = some (1 / 128)
      ∧ ∃ s t, (SortKey.byDistance (.real x) (.real y) .ascending (.text "Geo")).clause
          = .ok (call s t ++ " " ++ "asc")
        ∧ x.IsRoundedAs s ∧ y.IsRoundedAs t
        ∧ ∃ u v, valueOfNumeral? s = some u ∧ valueOfNumeral? t = some v ∧ u ≤ v := by
  intro x y call
  have hx : x.toRat? = some (-3 / 128) := by decide +kernel
  have hy : y.toRat? = some (1 / 128) := by decide +kernel
  obtain ⟨-, hclauses, hwritten, horder⟩ := distances_rounded (.text "Geo") (.real x) (.real y)
  obtain ⟨c, hc⟩ := (hwritten x y y rfl rfl).2 .ascending
  obtain ⟨s, t, rfl, hs, ht⟩ := hclauses .ascending c hc
  -- halves of the last place, on which the rounding goes to an even one
  have hsx := hs x rfl (by rw [hx]; rfl)
  have hty := ht y rfl (by rw [hy]; rfl)
  exact ⟨hx, hy, s, t, hc, hsx, hty, horder x y s t _ _ hsx hty hx hy (by norm_num)⟩

end IndexSearch
