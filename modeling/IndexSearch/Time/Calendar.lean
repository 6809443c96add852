import IndexSearch.Number.Limit

namespace IndexSearch.Time

open Number

/-!
# Dates and times of day

Dates of the Gregorian calendar, extended to all years from 1 to 9999, and times of day to the
microsecond with an optional offset from coordinated universal time. The offset may be one of the
time of year: then the moment belongs to a region, whose rules tell it.

* `Date.dayNumber` — the position of a date in the calendar;
* `Region` — what a moment has of the region that it belongs to;
* `DateTime.sameInstant` — equality of moments, whatever the offset they are written with;
* `DateTime.faults` — why a moment has no written form;
* `DateTime.text`, `DateTime.zonedText` — the written forms, without and with a zone supplied;
* `DateTime.expression` — the form shown inside quoted values.
-/

/-- Whether a year has a 29 February. -/
def isLeap (year : Nat) : Bool := year % 4 == 0 && (year % 100 != 0 || year % 400 == 0)

/-- The number of days of each month, January first. -/
def monthLengths (year : Nat) : List Nat :=
  [31, if isLeap year then 29 else 28, 31, 30, 31, 30, 31, 31, 30, 31, 30, 31]

/-- A date from the year 1 to the year 9999. -/
structure Date where
  /-- The year. -/
  year : Nat
  /-- The month, from 1. -/
  month : Nat
  /-- The day of the month, from 1. -/
  day : Nat
  /-- The year has at most four digits. -/
  year_mem : 1 ≤ year ∧ year ≤ 9999
  /-- There are twelve months. -/
  month_mem : 1 ≤ month ∧ month ≤ 12
  /-- The month has that many days. -/
  day_mem : 1 ≤ day ∧ day ≤ (monthLengths year).getD (month - 1) 0
deriving DecidableEq

namespace Date

/-- The date with the given parts, if there is one. -/
def ofParts? (year month day : Nat) : Option Date :=
  if h : (1 ≤ year ∧ year ≤ 9999) ∧ (1 ≤ month ∧ month ≤ 12)
      ∧ 1 ≤ day ∧ day ≤ (monthLengths year).getD (month - 1) 0 then
    some ⟨year, month, day, h.1, h.2.1, h.2.2⟩
  else none

/-- The number of days from the first day of the calendar to this one, both counted. -/
def dayNumber (d : Date) : Nat :=
  let y := d.year - 1
  let daysBefore := ((monthLengths d.year).take (d.month - 1)).foldl (· + ·) 0
  365 * y + y / 4 - y / 100 + y / 400 + daysBefore + d.day

/-- The year, the month and the day, with hyphens between them. -/
def text (d : Date) : String := padded 4 d.year ++ "-" ++ padded 2 d.month ++ "-" ++ padded 2 d.day

/-- The form shown inside quoted values. -/
def expression (d : Date) : String :=
  "datetime.date(" ++ ", ".intercalate ([d.year, d.month, d.day].map toString) ++ ")"

end Date

/-- Offsets from universal time are shorter than a day; they are counted in microseconds. -/
def offsetLimit : Nat := 86400000000

/-- What a moment has of the region that it belongs to. A region has rules that tell the offset of a
    moment by its local time; where clocks are set back a local time comes twice. -/
structure Region where
  /-- Which rules they are. Two moments may be of the same place under rules that were read twice;
      then they are not of one region. -/
  identity : Nat
  /-- The region as it is shown inside quoted values. -/
  shown : String
  /-- Whether the moment is the later one of two with its local time. -/
  later : Bool
  /-- The offset of the other one of two moments with this local time, as the rules tell it: the
      offset of the moment itself, unless clocks are set back or forward around it. -/
  otherOffset : Option Int
  /-- The error of asking for an offset that the rules do not tell. -/
  silence : Raised
  /-- The error of asking whether it is summer, if the rules do not tell that either. -/
  summerSilence : Option Raised
deriving DecidableEq

/-- A date and a time of day, with an offset from universal time unless the zone is unknown. -/
structure DateTime where
  /-- The date. -/
  date : Date
  /-- The hour. -/
  hour : Nat
  /-- The minute. -/
  minute : Nat
  /-- The second. -/
  second : Nat
  /-- The microsecond. -/
  microsecond : Nat
  /-- How far local time is ahead of universal time, in microseconds. -/
  offset : Option Int
  /-- The region of the moment, unless its zone is unknown or a fixed offset. A moment of a region
      has no offset if the rules of the region do not tell it. -/
  region : Option Region
  /-- A day has 24 hours. -/
  hour_lt : hour < 24
  /-- An hour has 60 minutes. -/
  minute_lt : minute < 60
  /-- A minute has 60 seconds. -/
  second_lt : second < 60
  /-- A second has a million microseconds. -/
  microsecond_lt : microsecond < 1000000
  /-- The offset is shorter than a day. -/
  offset_lt : ∀ o ∈ offset, o.natAbs < offsetLimit
deriving DecidableEq

/-- Whether a length of time is shorter than a day. -/
def shorterThanDay (o : Option Int) : Bool := o.all fun o => o.natAbs < offsetLimit

/-- A duration in microseconds as hours, minutes, seconds and microseconds. -/
def clockParts (us : Nat) : Nat × Nat × Nat × Nat :=
  (us / 3600000000, us / 60000000 % 60, us / 1000000 % 60, us % 1000000)

/-- The fraction of a second, if there is any. -/
def fractionText (us : Nat) : String := if us = 0 then "" else "." ++ padded 6 us

/-- An offset: a sign, hours and minutes, and seconds only where there are any. -/
def offsetText (o : Int) : String :=
  let (h, m, s, us) := clockParts o.natAbs
  (if o < 0 then "-" else "+") ++ padded 2 h ++ ":" ++ padded 2 m
    ++ (if s = 0 && us = 0 then "" else ":" ++ padded 2 s ++ fractionText us)

/-- An offset in which hours and minutes that are both zero, under a plus sign, are written `Z`. -/
def zoneText (o : Int) : String :=
  let (h, m, s, us) := clockParts o.natAbs
  if 0 ≤ o && h = 0 && m = 0 then
    "Z" ++ (if s = 0 && us = 0 then "" else ":" ++ padded 2 s ++ fractionText us)
  else offsetText o

namespace DateTime

/-- The moment with the given parts and of no region, if there is one. -/
def ofParts? (date : Date) (hour minute second microsecond : Nat) (offset : Option Int) :
    Option DateTime :=
  if h : hour < 24 ∧ minute < 60 ∧ second < 60 ∧ microsecond < 1000000
      ∧ shorterThanDay offset = true then
    some
      { date, hour, minute, second, microsecond, offset
        region := none
        hour_lt := h.1
        minute_lt := h.2.1
        second_lt := h.2.2.1
        microsecond_lt := h.2.2.2.1
        offset_lt := by
          intro o ho
          have hs := h.2.2.2.2
          rw [Option.mem_def] at ho
          subst ho
          simpa [shorterThanDay] using hs }
  else none

/-- Local time in microseconds from the first midnight of the calendar. -/
def localMicroseconds (t : DateTime) : Int :=
  (((t.date.dayNumber * 24 + t.hour) * 60 + t.minute) * 60 + t.second) * 1000000 + t.microsecond

/-- Whether both moments are of one region. -/
def sharesRegion (s t : DateTime) : Bool :=
  match s.region, t.region with
  | some r, some q => r.identity == q.identity
  | _, _ => false

/-- Whether the local time and the zone of the moment tell which one it is: its region, if it has
    one, has but one offset at the local time. -/
def isSettled (t : DateTime) : Bool := t.region.all fun r => r.otherOffset == t.offset

/-- Whether two moments are the same. Moments of one region are compared by their local times, and
    so are moments of which neither zone is known. All others are compared as instants, if both
    zones are known; a moment that is not settled is the same as none of them. -/
def sameInstant (s t : DateTime) : Bool :=
  if s.sharesRegion t then s.localMicroseconds == t.localMicroseconds
  else match s.offset, t.offset with
    | none, none =>
      s.region.isNone && t.region.isNone && s.localMicroseconds == t.localMicroseconds
    | some o, some p =>
      s.isSettled && t.isSettled && s.localMicroseconds - o == t.localMicroseconds - p
    | _, _ => false

/-- Why a moment has no written form: it is of a region that does not tell its offset. -/
def faults (t : DateTime) : List TextFault :=
  match t.offset, t.region with
  | none, some r => [.raised r.silence]
  | _, _ => []

/-- Hours, minutes and seconds, and the fraction of a second if there is any. -/
def clockText (t : DateTime) : String :=
  padded 2 t.hour ++ ":" ++ padded 2 t.minute ++ ":" ++ padded 2 t.second
    ++ fractionText t.microsecond

/-- The date and the time with a separator between them, and the offset if it is known. -/
def text (separator : String) (t : DateTime) : String :=
  t.date.text ++ separator ++ t.clockText ++ ((t.offset.map offsetText).getD "")

/-- The date and the time with `T` between them and a zone; an unknown zone counts as universal
    time. -/
def zonedText (t : DateTime) : String :=
  t.date.text ++ "T" ++ t.clockText ++ zoneText (t.offset.getD 0)

/-- The form of an offset inside quoted values: whole days, seconds and microseconds, the latter two
    never negative. -/
def offsetExpression (o : Int) : String :=
  if o = 0 then "datetime.timezone.utc"
  else
    let days := o.fdiv offsetLimit
    let within := (o.fmod offsetLimit).toNat
    let part (name : String) (n : Int) : List String :=
      if n = 0 then [] else [name ++ "=" ++ toString n]
    let parts := part "days" days ++ part "seconds" (within / 1000000 : Nat)
      ++ part "microseconds" (within % 1000000 : Nat)
    "datetime.timezone(datetime.timedelta(" ++ ", ".intercalate parts ++ "))"

/-- The form shown inside quoted values; a time ends with its last part that is not zero, but at the
    minute at the earliest. -/
def expression (t : DateTime) : String :=
  let fine := if t.microsecond = 0 then
      if t.second = 0 then [] else [t.second]
    else [t.second, t.microsecond]
  let parts := ([t.date.year, t.date.month, t.date.day, t.hour, t.minute] ++ fine).map toString
  let zone := match t.region, t.offset with
    | some r, _ => (if r.later then ["fold=1"] else []) ++ ["tzinfo=" ++ r.shown]
    | none, some o => ["tzinfo=" ++ offsetExpression o]
    | none, none => []
  "datetime.datetime(" ++ ", ".intercalate (parts ++ zone) ++ ")"

end DateTime

end IndexSearch.Time
