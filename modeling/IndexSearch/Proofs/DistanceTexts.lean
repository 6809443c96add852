import IndexSearch.Proofs.FilterFaults
import IndexSearch.Proofs.MomentTexts
import IndexSearch.Proofs.PassedChecks

namespace IndexSearch

open Number

/-!
# Numbers in the texts of distances

The coordinates of a point and a distance from it are written with six decimal places. Every finite
double has such a text, and so has every whole number that is not too large for a double, because
its double is finite. The doubles that are no finite numbers have no digits: they are written by
their names, and the call that measures the distance is then made with a word in the place of a
number.

* `SixPlaces` — texts of numbers with six decimal places;
* `Value.IsWrittenAs` — how a number is written, `Value.isWrittenAs_of_fixed` — as it is in fact;
* `distance_numbers` — the numbers in the texts of filters and of sort clauses.
-/

/-! ### Six decimal places -/

/-- Whether a text is that of a number with six decimal places: a minus sign or none, digits, a
    point and six digits. -/
def SixPlaces (s : String) : Prop :=
  ∃ sign whole places, s.toList = sign ++ whole ++ '.' :: places ∧ (sign = [] ∨ sign = ['-'])
    ∧ whole ≠ [] ∧ (∀ c ∈ whole, c.isDigit = true)
    ∧ places.length = 6 ∧ ∀ c ∈ places, c.isDigit = true

/-- The names of the doubles that are no finite numbers. -/
def specialTexts : List String := ["nan", "inf", "-inf"]

/-- A number of millionths with a sign has six decimal places. -/
theorem sixPlaces_millionthsText (negative : Bool) (n : Nat) :
    SixPlaces ((if negative then "-" else "") ++ Binary64.millionthsText n) := by
  have hplaces : n % 1000000 < 10 ^ 6 := Nat.mod_lt n (by decide)
  refine ⟨(if negative then "-" else "").toList, digits (n / 1000000),
    (padded 6 (n % 1000000)).toList, ?_, ?_, digits_ne_nil _, fun c => isDigit_of_mem_digits,
    length_padded (by decide) hplaces, fun c => isDigit_of_mem_padded⟩
  · simp only [Binary64.millionthsText, String.toList_append, toList_toString, List.append_assoc]
    rfl
  · cases negative with
    | true => exact .inr rfl
    | false => exact .inl rfl

/-- The names of special doubles hold no point. -/
theorem not_sixPlaces_of_mem {s : String} (h : s ∈ specialTexts) : ¬ SixPlaces s := by
  rintro ⟨sign, whole, places, hs, -⟩
  have hpoint : '.' ∈ s.toList := by
    rw [hs]
    exact List.mem_append_right _ List.mem_cons_self
  have hnone : ∀ t ∈ specialTexts, '.' ∉ t.toList := by decide
  exact hnone s h hpoint

/-! ### Numbers -/

/-- Whether a value is a number: a double, a whole number, or a truth value in its place. -/
def Value.isNumber : Value → Bool
  | .real _ | .int _ | .bool _ => true
  | _ => false

/-- Whether a value is a double that is no finite number. -/
def Value.isSpecial : Value → Bool
  | .real x => x.toRat?.isNone
  | _ => false

/-- Whether a text is the one that a number should have, with six decimal places, unless it is a
    special double, which has a name. -/
structure Value.IsWrittenAs (v : Value) (s : String) : Prop where
  /-- All other numbers have six decimal places, and special doubles have not. -/
  sixPlaces_iff : SixPlaces s ↔ v.isSpecial = false
  /-- Special doubles have names. -/
  special : v.isSpecial = true → s ∈ specialTexts

/-- A double is written with six decimals as its text says. -/
theorem isWrittenAs_fixedText (x : Binary64) : (Value.real x).IsWrittenAs x.fixedText := by
  have hspecial (hx : (Value.real x).isSpecial = true) (hmem : x.fixedText ∈ specialTexts) :
      (Value.real x).IsWrittenAs x.fixedText :=
    ⟨iff_of_false (not_sixPlaces_of_mem hmem) (by rw [hx]; exact Bool.noConfusion),
      fun _ => hmem⟩
  cases x with
  | nan => exact hspecial rfl (by decide)
  | infinite negative =>
    apply hspecial rfl
    cases negative <;> decide
  | finite negative m e h =>
    exact ⟨iff_of_true (sixPlaces_millionthsText negative _) rfl, fun hs => by cases hs⟩

/-- The double nearest to a whole number is a number, be it an infinity. -/
theorem ofInt_ne_nan (n : Int) : Binary64.ofInt n ≠ .nan := by
  have hpack (negative : Bool) (m e : Nat) : Binary64.pack negative m e ≠ .nan := by
    unfold Binary64.pack
    split <;> exact fun h => by cases h
  unfold Binary64.ofInt Binary64.ofRatio
  simp only
  split
  · exact hpack _ _ _
  · exact hpack _ _ _

/-- A whole number has six decimal places unless its double is an infinity. -/
theorem sixPlaces_ofInt {n : Int} (hn : ∀ negative, Binary64.ofInt n ≠ .infinite negative) :
    SixPlaces (Binary64.ofInt n).fixedText := by
  have hnan := ofInt_ne_nan n
  generalize Binary64.ofInt n = x at hn hnan ⊢
  cases x with
  | nan => exact absurd rfl hnan
  | infinite negative => exact absurd rfl (hn negative)
  | finite negative m e hcanonical => exact sixPlaces_millionthsText negative _

/-- A whole number is written by way of a double, unless there is none that is finite. -/
theorem wholeText_eq_ok_iff {x : Binary64} {s : String} :
    wholeText x = .ok s ↔ (∀ negative, x ≠ .infinite negative) ∧ x.fixedText = s := by
  cases x with
  | infinite negative => exact iff_of_false (fun h => by cases h) (fun h => h.1 negative rfl)
  | nan => simp [wholeText]
  | finite negative m e h => simp [wholeText]

/-- **The text of a number** has six decimal places exactly if it is no special double. -/
theorem Value.isWrittenAs_of_fixed {v : Value} {s : String} (hv : v.isNumber = true)
    (h : fixed v = .ok s) : v.IsWrittenAs s := by
  have hwhole {v : Value} (hspecial : v.isSpecial = false) (hs : SixPlaces s) : v.IsWrittenAs s :=
    ⟨iff_of_true hs hspecial, fun h => by rw [hspecial] at h; cases h⟩
  cases v with
  | real x =>
    rw [← Except.ok.inj h]
    exact isWrittenAs_fixedText x
  | int n =>
    obtain ⟨hfinite, hs⟩ := wholeText_eq_ok_iff.mp h
    exact hwhole rfl (hs ▸ sixPlaces_ofInt hfinite)
  | bool b =>
    -- zero and one are far below the bound
    apply hwhole rfl
    rw [← Except.ok.inj h]
    apply sixPlaces_ofInt
    intro negative hinfinite
    have hbound := (Binary64.exists_ofInt_eq_infinite_iff _).mp ⟨negative, hinfinite⟩
    revert hbound
    cases b <;> decide +kernel
  | _ => cases hv

/-! ### Distances -/

/-- In a filter a number is written as it is with six decimals; only the errors are worded anew. -/
theorem fixedIn_eq_ok_iff {v : Value} {s : String} : fixedIn v = .ok s ↔ fixed v = .ok s :=
  mapError_eq_ok_iff

/-- The call that measures a distance is made of the texts of its coordinates. -/
theorem distanceCall_eq_ok_iff {field longitude latitude : Value} {s : String} :
    distanceCall field longitude latitude = .ok s ↔ ∃ x y, fixed longitude = .ok x
      ∧ fixed latitude = .ok y
      ∧ s = "geo.distance(" ++ field.plain ++ ", geography'POINT(" ++ x ++ " " ++ y ++ ")')" := by
  simp only [distanceCall, bind_eq_ok_iff, fixedIn_eq_ok_iff]
  constructor
  · rintro ⟨x, hx, y, hy, hs⟩
    exact ⟨x, y, hx, hy, (Except.ok.inj hs).symm⟩
  · rintro ⟨x, y, hx, hy, rfl⟩
    exact ⟨x, hx, y, hy, rfl⟩

/-- **Numbers in the texts of distances.** Where a filter on the distance from a point is written
    and the coordinates of the point and the distance are numbers, each of the three stands in the
    text with six decimal places unless it is a special double, and otherwise with a name that has
    no digits. The same holds of the two coordinates in the clause of a sort key. -/
theorem distance_numbers (field longitude latitude : Value) (hlongitude : longitude.isNumber = true)
    (hlatitude : latitude.isNumber = true) :
    (∀ comparison distance s, distance.isNumber = true →
      (DistanceFilter.mk field longitude latitude comparison distance).compile = .ok s →
        ∃ x y d, s = "geo.distance(" ++ field.plain ++ ", geography'POINT(" ++ x ++ " " ++ y
            ++ ")')" ++ " " ++ comparison.word ++ " " ++ d
          ∧ longitude.IsWrittenAs x ∧ latitude.IsWrittenAs y ∧ distance.IsWrittenAs d)
      ∧ ∀ direction s, (SortKey.byDistance longitude latitude direction field).clause = .ok s →
        ∃ x y, s = "geo.distance(" ++ field.plain ++ ", geography'POINT(" ++ x ++ " " ++ y
            ++ ")')" ++ " " ++ direction.word
          ∧ longitude.IsWrittenAs x ∧ latitude.IsWrittenAs y := by
  -- both texts begin with the call, so its coordinates are looked at once
  have hcoordinates {call : String} (hcall : distanceCall field longitude latitude = .ok call) :
      ∃ x y, call = "geo.distance(" ++ field.plain ++ ", geography'POINT(" ++ x ++ " " ++ y ++ ")')"
        ∧ longitude.IsWrittenAs x ∧ latitude.IsWrittenAs y := by
    obtain ⟨x, y, hx, hy, hs⟩ := distanceCall_eq_ok_iff.mp hcall
    exact ⟨x, y, hs, Value.isWrittenAs_of_fixed hlongitude hx,
      Value.isWrittenAs_of_fixed hlatitude hy⟩
  constructor
  · intro comparison distance s hdistance h
    obtain ⟨call, hcall, h⟩ := bind_eq_ok_iff.mp h
    obtain ⟨d, hd, h⟩ := bind_eq_ok_iff.mp h
    obtain ⟨x, y, rfl, hx, hy⟩ := hcoordinates hcall
    exact ⟨x, y, d, (Except.ok.inj h).symm, hx, hy,
      Value.isWrittenAs_of_fixed hdistance (fixedIn_eq_ok_iff.mp hd)⟩
  · intro direction s h
    obtain ⟨call, hcall, h⟩ := bind_eq_ok_iff.mp h
    obtain ⟨x, y, rfl, hx, hy⟩ := hcoordinates hcall
    exact ⟨x, y, (Except.ok.inj h).symm, hx, hy⟩

/-- A truth value and a whole number as coordinates, and a distance that is an infinity: only the
    distance is written without digits. -/
theorem distance_numbers_infinity :
    let g : DistanceFilter := ⟨.text "Geo", .bool true, .int (-51), .le, .real (.infinite false)⟩
    let call (x y : String) := "geo.distance(Geo" ++ ", geography'POINT(" ++ x ++ " " ++ y ++ ")')"
    (∃ x y d, g.compile = .ok (call x y ++ " " ++ "le" ++ " " ++ d)
        ∧ SixPlaces x ∧ SixPlaces y ∧ d ∈ specialTexts)
      ∧ ∃ x y, (SortKey.byDistance g.longitude g.latitude .descending g.field).clause
        = .ok (call x y ++ " " ++ "desc") ∧ SixPlaces x ∧ SixPlaces y := by
  intro g call
  -- a whole number of this size is not past every float, so it is written
  have hsmall : numberFaults (.int (-51)) = [] := by
    rw [numberFaults, fixedFault?, if_neg (by decide +kernel)]
    rfl
  obtain ⟨s, hs⟩ : ∃ s, g.compile = .ok s := by
    rw [g.compile_failsFirst.exists_ok_iff]
    show [] ++ numberFaults (.int (-51)) ++ [] = []
    rw [hsmall]
    rfl
  obtain ⟨c, hc, -⟩ := bind_eq_ok_iff.mp hs
  have hkey : (SortKey.byDistance g.longitude g.latitude .descending g.field).clause
      = .ok (c ++ " " ++ "desc") := bind_eq_ok_iff.mpr ⟨c, hc, rfl⟩
  obtain ⟨hfilters, hkeys⟩ := distance_numbers g.field g.longitude g.latitude rfl rfl
  -- the longitude and the latitude are numbers, and the distance is not
  constructor
  · obtain ⟨x, y, d, rfl, hx, hy, hd⟩ := hfilters g.comparison g.distance s rfl hs
    exact ⟨x, y, d, hs, hx.sixPlaces_iff.mpr rfl, hy.sixPlaces_iff.mpr rfl, hd.special rfl⟩
  · obtain ⟨x, y, htext, hx, hy⟩ := hkeys _ _ hkey
    rw [htext] at hkey
    exact ⟨x, y, hkey, hx.sixPlaces_iff.mpr rfl, hy.sixPlaces_iff.mpr rfl⟩

/-- The text of a number with six decimal places begins with a minus sign or with a digit. -/
theorem SixPlaces.exists_eq_cons {s : String} (h : SixPlaces s) :
    ∃ c r, s.toList = c :: r ∧ (c = '-' ∨ c.isDigit = true) := by
  obtain ⟨sign, whole, places, hs, hsign, hne, hwhole, -⟩ := h
  rcases hsign with rfl | rfl
  · obtain ⟨d, r, rfl⟩ := List.exists_cons_of_ne_nil hne
    exact ⟨d, _, hs, .inr (hwhole d List.mem_cons_self)⟩
  · exact ⟨'-', _, hs, .inl rfl⟩

/-- A longitude that is not a number can be sorted by, and no number with six decimal places stands
    in its place. -/
theorem distance_of_nan :
    ∃ key s, SortKey.ofDistance (.real .nan) (.real (.zero false)) (.text "asc") (.text "Geo")
        = .ok key
      ∧ key.clause = .ok s ∧ ¬ ∃ x y, SixPlaces x
        ∧ s = "geo.distance(Geo, geography'POINT(" ++ x ++ " " ++ y ++ ")') asc" := by
  refine ⟨_, _, rfl, rfl, ?_⟩
  rintro ⟨x, y, hx, hs⟩
  obtain ⟨c, r, hx, hc⟩ := hx.exists_eq_cons
  -- the name begins where the number should
  have hstart (t : List Char) : "geo.distance(".toList ++ ((Value.text "Geo").plain.toList
      ++ (", geography'POINT(".toList ++ t)) = "geo.distance(Geo, geography'POINT(".toList ++ t :=
    rfl
  have hchars := congrArg String.toList hs
  simp only [String.toList_append, hx, List.append_assoc, List.cons_append] at hchars
  have hfirst := congrArg List.head? (List.append_cancel_left ((hstart _).symm.trans hchars))
  have hn : 'n' = c := Option.some.inj hfirst
  rcases hc with rfl | hc
  · cases hn
  · rw [← hn] at hc
    revert hc
    decide

end IndexSearch
