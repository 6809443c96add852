import IndexSearch.Filter.Literal
import IndexSearch.Proofs.MomentTexts

namespace IndexSearch

open Number Time

/-!
# Moments are read back, but for offsets of less than a minute

A moment is written in the international form: date and time of day with `T` between them, and then
the zone, which is `Z` for universal time and otherwise a sign with hours and minutes, followed by
seconds and a fraction only where there are any. The form is read from left to right, since all its
fields have a fixed width.

The `Z` comes about by replacing `+00:00` wherever it occurs in the text. It occurs in the zone
only, but there it may be the beginning of a longer offset: what is `+00:00:30` becomes `Z:30`, and
that is no zone at all.

* `readMoment` — reads a moment from its text;
* `DateTime.readMoment_text` — without the replacement each moment is read back, whatever its
  offset;
* `DateTime.zonedText_eq_replaceZulu` — the text of a moment is that form with the replacement made;
* `DateTime.readMoment_written` — the literal is read as the moment unless its offset is positive
  and shorter than a minute; then it is not read at all.
-/

/-! ### The reader -/

/-- Takes a mark off the front of a text. -/
def readMark (mark : Char) : List Char → Option (List Char)
  | [] => none
  | c :: r => if c = mark then some r else none

/-- Reads a number of exactly `width` digits. -/
def readNumber (width : Nat) (cs : List Char) : Option (Nat × List Char) :=
  let ds := cs.take width
  if ds.length = width then (natOfChars? ds).map fun n => (n, cs.drop width) else none

/-- Reads the fraction of a second in microseconds, if there is one: a point and up to six
    digits. -/
def readFraction : List Char → Option (Nat × List Char)
  | '.' :: r =>
    let ds := r.takeWhile Char.isDigit
    if ds.isEmpty || 6 < ds.length then none
    else some (ofDigits ds * 10 ^ (6 - ds.length), r.dropWhile Char.isDigit)
  | cs => some (0, cs)

/-- Reads the seconds of an offset with their fraction, if there are any. -/
def readSeconds : List Char → Option (Nat × Nat × List Char)
  | ':' :: r => do
    let (s, r) ← readNumber 2 r
    let (us, r) ← readFraction r
    return (s, us, r)
  | cs => some (0, 0, cs)

/-- Reads a length of time up to the end of the text: hours and minutes, which seconds may
    follow. -/
def readSpan (cs : List Char) : Option Nat := do
  let (h, cs) ← readNumber 2 cs
  let cs ← readMark ':' cs
  let (m, cs) ← readNumber 2 cs
  let (s, us, cs) ← readSeconds cs
  if m < 60 && s < 60 && cs.isEmpty then some (((h * 60 + m) * 60 + s) * 1000000 + us) else none

/-- Reads a zone up to the end of the text: `Z`, or a sign and a length of time. -/
def readZone : List Char → Option Int
  | 'Z' :: r => if r.isEmpty then some 0 else none
  | '+' :: r => (readSpan r).map fun n => (n : Int)
  | '-' :: r => (readSpan r).map fun n => -(n : Int)
  | _ => none

/-- Reads a date, which has to be one that there is. -/
def readDate (cs : List Char) : Option (Date × List Char) := do
  let (year, cs) ← readNumber 4 cs
  let cs ← readMark '-' cs
  let (month, cs) ← readNumber 2 cs
  let cs ← readMark '-' cs
  let (day, cs) ← readNumber 2 cs
  let date ← Date.ofParts? year month day
  return (date, cs)

/-- Reads a time of day: hours, minutes, seconds and microseconds. -/
def readClock (cs : List Char) : Option ((Nat × Nat × Nat × Nat) × List Char) := do
  let (hour, cs) ← readNumber 2 cs
  let cs ← readMark ':' cs
  let (minute, cs) ← readNumber 2 cs
  let cs ← readMark ':' cs
  let (second, cs) ← readNumber 2 cs
  let (microsecond, cs) ← readFraction cs
  return ((hour, minute, second, microsecond), cs)

/-- Reads a moment in the international form. The date, the time of day and the offset have to be
    ones that there are. -/
def readMoment (text : String) : Option DateTime := do
  let (date, cs) ← readDate text.toList
  let cs ← readMark 'T' cs
  let ((hour, minute, second, microsecond), cs) ← readClock cs
  let offset ← readZone cs
  DateTime.ofParts? date hour minute second microsecond (some offset)

/-! ### Reading the parts -/

/-- A mark is taken off the front. -/
theorem readMark_cons (mark : Char) (r : List Char) : readMark mark (mark :: r) = some r :=
  if_pos rfl

/-- A padded natural is read, and what follows it is left. -/
theorem readNumber_padded {width n : Nat} (hw : 0 < width) (hn : n < 10 ^ width)
    (r : List Char) : readNumber width ((padded width n).toList ++ r) = some (n, r) := by
  have hlength := length_padded hw hn
  simp only [readNumber, List.take_left' hlength, List.drop_left' hlength, if_pos hlength,
    natOfChars?_padded]
  rfl

/-- What may follow a fraction: nothing that could belong to it or begin one. -/
def EndsFraction (r : List Char) : Prop := ∀ c ∈ r.head?, c ≠ '.' ∧ c.isDigit = false

/-- Where nothing follows, a fraction ends. -/
theorem endsFraction_nil : EndsFraction [] := by simp [EndsFraction]

/-- A fraction ends before what is neither a point nor a digit. -/
theorem endsFraction_cons {c : Char} (h : c ≠ '.' ∧ c.isDigit = false) (r : List Char) :
    EndsFraction (c :: r) := by
  intro d hd
  rwa [← Option.mem_some_iff.mp hd]

/-- A fraction of a second is read, and what follows it is left. -/
theorem readFraction_fractionText {us : Nat} (hu : us < 1000000) {r : List Char}
    (hr : EndsFraction r) : readFraction ((fractionText us).toList ++ r) = some (us, r) := by
  by_cases hus : us = 0
  · -- nothing is written, so nothing may be read
    subst hus
    show readFraction r = some (0, r)
    unfold readFraction
    split
    · exact absurd rfl (hr '.' rfl).1
    · rfl
  · have hdigits : ∀ c ∈ (padded 6 us).toList, c.isDigit = true :=
      fun _ h => isDigit_of_mem_padded h
    have hstop : ∀ c ∈ r.head?, c.isDigit = false := fun c hc => (hr c hc).2
    -- six digits are written, no more and no fewer
    have hlength : (padded 6 us).toList.length = 6 := length_padded (by decide) hu
    have hne : (padded 6 us).toList.isEmpty = false := by
      rw [← List.length_eq_zero_iff.not.trans List.isEmpty_eq_false_iff.symm, hlength]
      decide
    rw [toList_fractionText_of_ne hus, List.cons_append]
    simp only [readFraction, takeWhile_append_stop hdigits hstop,
      dropWhile_append_stop hdigits hstop, hne, hlength, ofDigits_padded]
    simp

/-- The seconds of an offset are read up to the end of the text. -/
theorem readSeconds_finerText {s us : Nat} (hs : s < 60) (hu : us < 1000000) :
    readSeconds (finerText s us).toList = some (s, us, []) := by
  rw [toList_finerText]
  split
  · rename_i hzero
    obtain ⟨rfl, rfl⟩ := hzero
    rfl
  · have hfraction := readFraction_fractionText hu endsFraction_nil
    rw [List.append_nil] at hfraction
    simp only [readSeconds, readNumber_padded (by decide) (show s < 10 ^ 2 by omega),
      Option.bind_eq_bind, Option.bind_some, hfraction]
    rfl

/-- A length of time is the sum of its parts. -/
theorem sum_clockParts {n h m s us : Nat} (hparts : clockParts n = (h, m, s, us)) :
    ((h * 60 + m) * 60 + s) * 1000000 + us = n := by
  simp only [clockParts, Prod.mk.injEq] at hparts
  omega

/-- A length of time is read from its hours, minutes and seconds. -/
theorem readSpan_clockParts {n h m s us : Nat} (hn : n < offsetLimit)
    (hparts : clockParts n = (h, m, s, us)) :
    readSpan ((padded 2 h).toList ++ ':' :: ((padded 2 m).toList ++ (finerText s us).toList))
      = some n := by
  obtain ⟨hh, hm, hs, hu⟩ := lt_of_clockParts hn hparts
  have hhour : h < 10 ^ 2 := by omega
  have hminute : m < 10 ^ 2 := by omega
  simp only [readSpan, readNumber_padded (by decide) hhour,
    readNumber_padded (by decide) hminute, readMark_cons,
    readSeconds_finerText hs hu, Option.bind_eq_bind, Option.bind_some]
  simp [hm, hs, sum_clockParts hparts]

/-- **Every offset is read back** if nothing in its text is replaced. -/
theorem readZone_offsetText {o : Int} (ho : o.natAbs < offsetLimit) :
    readZone (offsetText o).toList = some o := by
  obtain ⟨⟨h, m, s, us⟩, hparts⟩ : ∃ x, clockParts o.natAbs = x := ⟨_, rfl⟩
  rw [toList_offsetText hparts]
  rcases offsetSign_cases o with ⟨hneg, hsign⟩ | ⟨hpos, hsign⟩
  · rw [hsign, readZone, readSpan_clockParts ho hparts]
    show some (-(o.natAbs : Int)) = some o
    congr 1
    omega
  · rw [hsign, readZone, readSpan_clockParts ho hparts]
    show some (o.natAbs : Int) = some o
    congr 1
    omega

/-- Whether an offset is positive and shorter than a minute. -/
def IsWithinMinute (o : Int) : Prop := 0 < o ∧ o < 60000000

instance (o : Int) : Decidable (IsWithinMinute o) :=
  inferInstanceAs (Decidable (0 < o ∧ o < 60000000))

/-- The text of a zone is read as the offset, except where it goes on after `Z`. -/
theorem readZone_zoneText {o : Int} (ho : o.natAbs < offsetLimit) :
    readZone (zoneText o).toList = if IsWithinMinute o then none else some o := by
  obtain ⟨⟨h, m, s, us⟩, hparts⟩ : ∃ x, clockParts o.natAbs = x := ⟨_, rfl⟩
  have hsum := sum_clockParts hparts
  obtain ⟨-, hm, hs, hu⟩ := lt_of_clockParts ho hparts
  rw [toList_zoneText hparts]
  -- the name of universal time is put where hours and minutes are zero and the sign is a plus
  by_cases hz : 0 ≤ o ∧ h = 0 ∧ m = 0
  · obtain ⟨hpos, rfl, rfl⟩ := hz
    rw [if_pos ⟨hpos, rfl, rfl⟩, readZone, toList_finerText]
    by_cases hfine : s = 0 ∧ us = 0
    · -- universal time itself
      have hzero : o = 0 := by omega
      rw [if_pos hfine, hzero]
      rfl
    · -- what is left of the offset follows the `Z`
      have hwithin : IsWithinMinute o := by
        constructor <;> omega
      rw [if_neg hfine, if_pos hwithin]
      rfl
  · have hnot : ¬ IsWithinMinute o := by
      rintro ⟨hlow, hhigh⟩
      apply hz
      omega
    rw [if_neg hz, if_neg hnot, ← toList_offsetText hparts, readZone_offsetText ho]

/-- A fraction ends before the sign of an offset. -/
theorem endsFraction_offsetSign (o : Int) (r : List Char) : EndsFraction (offsetSign o :: r) := by
  apply endsFraction_cons
  rcases offsetSign_cases o with ⟨-, ho⟩ | ⟨-, ho⟩ <;> rw [ho] <;> decide

/-- A fraction ends before an offset. -/
theorem endsFraction_offsetText (o : Int) : EndsFraction (offsetText o).toList := by
  obtain ⟨⟨h, m, s, us⟩, hparts⟩ : ∃ x, clockParts o.natAbs = x := ⟨_, rfl⟩
  rw [toList_offsetText hparts]
  exact endsFraction_offsetSign o _

/-- A fraction ends before a zone. -/
theorem endsFraction_zoneText (o : Int) : EndsFraction (zoneText o).toList := by
  obtain ⟨⟨h, m, s, us⟩, hparts⟩ : ∃ x, clockParts o.natAbs = x := ⟨_, rfl⟩
  rw [toList_zoneText hparts]
  split
  · exact endsFraction_cons (by decide) _
  · exact endsFraction_offsetSign o _

/-! ### The replacement -/

/-- Replaces each `+00:00` in a text by `Z`, from left to right. -/
def replaceZulu : List Char → List Char
  | '+' :: '0' :: '0' :: ':' :: '0' :: '0' :: r => 'Z' :: replaceZulu r
  | c :: r => c :: replaceZulu r
  | [] => []

/-- An offset of no hours and minutes is replaced. -/
theorem replaceZulu_zero (r : List Char) :
    replaceZulu ('+' :: ("00:00".toList ++ r)) = 'Z' :: replaceZulu r := by
  show replaceZulu ('+' :: '0' :: '0' :: ':' :: '0' :: '0' :: r) = _
  rw [replaceZulu]

/-- A character that begins no such offset stays. -/
theorem replaceZulu_cons {c : Char} {r : List Char}
    (h : ∀ t, c :: r ≠ '+' :: ("00:00".toList ++ t)) :
    replaceZulu (c :: r) = c :: replaceZulu r := by
  rw [replaceZulu]
  rintro t rfl rfl
  exact h t rfl

/-- Nothing is replaced before the first plus sign. -/
theorem replaceZulu_append {cs : List Char} (h : '+' ∉ cs) (r : List Char) :
    replaceZulu (cs ++ r) = cs ++ replaceZulu r := by
  induction cs with
  | nil => rfl
  | cons c cs ih =>
    rw [List.mem_cons, not_or] at h
    obtain ⟨hne, hrest⟩ := h
    rw [List.cons_append, replaceZulu_cons, ih hrest, List.cons_append]
    intro t ht
    exact hne (List.cons.inj ht).1.symm

/-- A text without a plus stays as it is. -/
theorem replaceZulu_of_notMem {cs : List Char} (h : '+' ∉ cs) : replaceZulu cs = cs := by
  have happend := replaceZulu_append h []
  rwa [List.append_nil, replaceZulu, List.append_nil] at happend

/-- Padded numbers have no plus. -/
theorem plus_notMem_padded (width n : Nat) : '+' ∉ (padded width n).toList := by
  intro h
  exact absurd (isDigit_of_mem_padded h) (by decide)

/-- Fractions of a second have no plus. -/
theorem plus_notMem_fractionText (us : Nat) : '+' ∉ (fractionText us).toList := by
  by_cases hus : us = 0
  · rw [hus]
    decide
  · rw [toList_fractionText_of_ne hus]
    simp [plus_notMem_padded]

/-- Seconds have no plus. -/
theorem plus_notMem_finerText (s us : Nat) : '+' ∉ (finerText s us).toList := by
  rw [toList_finerText]
  split
  · exact List.not_mem_nil
  · simp [plus_notMem_padded, plus_notMem_fractionText]

/-- The text of a zone is that of its offset with the replacement made. -/
theorem replaceZulu_offsetText {o : Int} (ho : o.natAbs < offsetLimit) :
    replaceZulu (offsetText o).toList = (zoneText o).toList := by
  obtain ⟨⟨h, m, s, us⟩, hparts⟩ : ∃ x, clockParts o.natAbs = x := ⟨_, rfl⟩
  obtain ⟨hh, hm, -, -⟩ := lt_of_clockParts ho hparts
  have hplain : '+' ∉ (padded 2 h).toList ++ ':' :: ((padded 2 m).toList
      ++ (finerText s us).toList) := by
    simp [plus_notMem_padded, plus_notMem_finerText]
  rw [toList_zoneText hparts, toList_offsetText hparts]
  by_cases hz : 0 ≤ o ∧ h = 0 ∧ m = 0
  · obtain ⟨hpos, rfl, rfl⟩ := hz
    rw [if_pos ⟨hpos, rfl, rfl⟩, show offsetSign o = '+' from if_neg (by omega)]
    show replaceZulu ('+' :: ("00:00".toList ++ (finerText s us).toList)) = _
    rw [replaceZulu_zero, replaceZulu_of_notMem (plus_notMem_finerText s us)]
  · rw [if_neg hz, replaceZulu_cons, replaceZulu_of_notMem hplain]
    -- the sign and the hours and minutes would all be as in universal time
    intro t ht
    obtain ⟨hsign, hclock⟩ := List.cons.inj ht
    apply hz
    obtain ⟨rfl, hminutes⟩ := padded_append_inj (by decide) (by omega) (by decide)
      (show (padded 2 h).toList ++ _ = (padded 2 0).toList ++ ':' :: ((padded 2 0).toList ++ t)
        from hclock)
    obtain ⟨rfl, -⟩ := padded_append_inj (by decide) (by omega) (by decide)
      (List.cons.inj hminutes).2
    rcases offsetSign_cases o with ⟨-, hminus⟩ | ⟨hpos, -⟩
    · rw [hminus] at hsign
      exact absurd hsign (by decide)
    · exact ⟨hpos, rfl, rfl⟩

/-! ### Reading moments -/

namespace Time

/-- The parts of a date make the date again. -/
theorem Date.ofParts?_self (d : Date) : Date.ofParts? d.year d.month d.day = some d :=
  dif_pos ⟨d.year_mem, d.month_mem, d.day_mem⟩

namespace DateTime

/-- The moment with its offset alone, whatever region it is of; an unknown zone counts as universal
    time. -/
def zoned (t : DateTime) : DateTime :=
  { t with
    offset := some (t.offset.getD 0)
    region := none
    offset_lt := by
      intro o ho
      rw [← Option.mem_some_iff.mp ho]
      exact t.natAbs_offset_lt }

/-- The parts of a moment make the moment again. -/
theorem ofParts?_zoned (t : DateTime) : DateTime.ofParts? t.date t.hour t.minute t.second
    t.microsecond (some (t.offset.getD 0)) = some t.zoned :=
  dif_pos ⟨t.hour_lt, t.minute_lt, t.second_lt, t.microsecond_lt,
    decide_eq_true t.natAbs_offset_lt⟩

/-- A date is read from its text, and what follows it is left. -/
theorem readDate_text (d : Date) (r : List Char) :
    readDate (d.text.toList ++ r) = some (d, r) := by
  obtain ⟨hyear, hmonth, hday⟩ := d.fits
  have hhyphen : "-".toList = ['-'] := rfl
  simp only [Date.text, String.toList_append, List.append_assoc, hhyphen, List.cons_append,
    List.nil_append]
  -- each field ends at its width, and the mark after it is taken off
  simp only [readDate, readNumber_padded (by decide) hyear, readNumber_padded (by decide) hmonth,
    readNumber_padded (by decide) hday, readMark_cons, Date.ofParts?_self, Option.bind_eq_bind,
    Option.bind_some]
  rfl

/-- The time of day is read from its text, and what follows it is left. -/
theorem readClock_clockText (t : DateTime) {r : List Char} (hr : EndsFraction r) :
    readClock (t.clockText.toList ++ r) =
      some ((t.hour, t.minute, t.second, t.microsecond), r) := by
  have hhour : t.hour < 10 ^ 2 := Nat.lt_trans t.hour_lt (by decide)
  have hminute : t.minute < 10 ^ 2 := Nat.lt_trans t.minute_lt (by decide)
  have hsecond : t.second < 10 ^ 2 := Nat.lt_trans t.second_lt (by decide)
  have hcolon : ":".toList = [':'] := rfl
  simp only [clockText, String.toList_append, List.append_assoc, hcolon, List.cons_append,
    List.nil_append]
  simp only [readClock, readNumber_padded (by decide) hhour, readNumber_padded (by decide) hminute,
    readNumber_padded (by decide) hsecond, readMark_cons,
    readFraction_fractionText t.microsecond_lt hr, Option.bind_eq_bind, Option.bind_some]
  rfl

/-- The date and the time of day are read, and the zone is what is left. -/
theorem readMoment_append (t : DateTime) {zone : String} (hzone : EndsFraction zone.toList) :
    readMoment (t.date.text ++ "T" ++ t.clockText ++ zone) =
      (readZone zone.toList).bind fun o =>
        DateTime.ofParts? t.date t.hour t.minute t.second t.microsecond (some o) := by
  have hletter : "T".toList = ['T'] := rfl
  simp only [readMoment, String.toList_append, List.append_assoc, hletter, List.cons_append,
    List.nil_append, readDate_text, readMark_cons, readClock_clockText t hzone,
    Option.bind_eq_bind, Option.bind_some]

/-- **The text of a moment is its international form with the replacement made.** Neither the date
    nor the time of day holds a plus sign, so nothing is replaced in them. -/
theorem zonedText_eq_replaceZulu (t : DateTime) :
    t.zonedText = String.ofList (replaceZulu (t.zoned.text "T").toList) := by
  have hdate : '+' ∉ (t.date.text ++ "T" ++ t.clockText).toList := by
    simp [Date.text, clockText, plus_notMem_padded, plus_notMem_fractionText]
  show t.date.text ++ "T" ++ t.clockText ++ zoneText (t.offset.getD 0) = String.ofList
    (replaceZulu (t.date.text ++ "T" ++ t.clockText ++ offsetText (t.offset.getD 0)).toList)
  rw [String.toList_append, replaceZulu_append hdate, replaceZulu_offsetText t.natAbs_offset_lt,
    ← String.toList_append, String.ofList_toList]

/-- **The international form is read back**, whatever the offset. -/
theorem readMoment_text (t : DateTime) : readMoment (t.zoned.text "T") = some t.zoned := by
  have hread := t.readMoment_append (endsFraction_offsetText (t.offset.getD 0))
  rw [readZone_offsetText t.natAbs_offset_lt, Option.bind_some, ofParts?_zoned] at hread
  exact hread

/-- **The literal for a moment is read back exactly if its offset is not within the first minute.**
    It is then read as the same date and time of day with the same offset, where an unknown zone
    counts as universal time. A positive offset of less than a minute begins with the zero hours and
    minutes that are replaced by `Z`, and what is left of it is in the way of reading. -/
theorem readMoment_written (t : DateTime) : readMoment (Literal.dateTime t).written =
    if IsWithinMinute (t.offset.getD 0) then none else some t.zoned := by
  show readMoment (t.date.text ++ "T" ++ t.clockText ++ zoneText (t.offset.getD 0)) = _
  rw [t.readMoment_append (endsFraction_zoneText _), readZone_zoneText t.natAbs_offset_lt]
  split
  · rfl
  · exact t.ofParts?_zoned

/-- A moment with an offset of half a minute: the text with its offset is read back, but with the
    hours and minutes of the offset replaced by `Z` it is not read as any moment. -/
theorem unread_of_half_minute :
    let date : Date := ⟨2020, 1, 1, by decide, by decide, by decide⟩
    let t : DateTime := ⟨date, 0, 0, 0, 0, some 30000000, none, by decide, by decide, by decide,
      by decide, by decide⟩
    t.text "T" = "2020-01-01T00:00:00+00:00:30" ∧ readMoment (t.text "T") = some t ∧
      (Literal.dateTime t).written = "2020-01-01T00:00:00Z:30" ∧
      readMoment (Literal.dateTime t).written = none := by
  decide +kernel

end DateTime

end Time

end IndexSearch
