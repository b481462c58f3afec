/-!
# Days and points in time

Days follow the calendar with leap days that has been in general use since 1582, carried on to the
first day of year one. A day has a number, counted from that day.
-/

namespace ShellVet

/-- A day of the calendar. -/
structure Date where
  year : Nat
  month : Nat
  day : Nat
  deriving DecidableEq, Repr

/-- A point in time. The offset from universal time is in seconds; without one the time is local. -/
structure Moment where
  date : Date
  hour : Nat
  minute : Nat
  second : Nat
  microsecond : Nat
  offset : Option Int
  deriving DecidableEq, Repr

/-- Days before a year of the calendar, counted from year one. -/
def Date.daysBeforeYear (year : Nat) : Nat :=
  let past := year - 1
  365 * past + past / 4 - past / 100 + past / 400

/-- Whether a year has a leap day. -/
def Date.isLeap (year : Nat) : Bool :=
  year % 4 == 0 && (year % 100 != 0 || year % 400 == 0)

/-- Days of a month. -/
def Date.monthLength (year month : Nat) : Nat :=
  if month = 2 then (if isLeap year then 29 else 28)
  else if month ∈ [4, 6, 9, 11] then 30 else 31

/-- Number of the day, counted from the first day of year one. -/
def Date.ordinal (date : Date) : Nat :=
  let months := (List.range (date.month - 1)).map fun m => monthLength date.year (m + 1)
  daysBeforeYear date.year + months.foldr (· + ·) 0 + date.day

/-- Microseconds from the first day of year one, in universal time where the offset is known. -/
def Moment.microseconds (moment : Moment) : Int :=
  let seconds :=
    ((moment.date.ordinal * 24 + moment.hour) * 60 + moment.minute) * 60 + moment.second
  ((seconds : Int) - moment.offset.getD 0) * 1000000 + moment.microsecond

/-- The day of a number. Years are counted from the first of March here, so that a leap day is the
last day of its year. -/
def Date.ofOrdinal (ordinal : Nat) : Date :=
  let day := ordinal + 305
  let era := day / 146097
  let dayOfEra := day % 146097
  let yearOfEra := (dayOfEra - dayOfEra / 1460 + dayOfEra / 36524 - dayOfEra / 146096) / 365
  let dayOfYear := dayOfEra - (365 * yearOfEra + yearOfEra / 4 - yearOfEra / 100)
  let monthFromMarch := (5 * dayOfYear + 2) / 153
  let month := if monthFromMarch < 10 then monthFromMarch + 3 else monthFromMarch - 9
  let year := yearOfEra + 400 * era
  ⟨if month ≤ 2 then year + 1 else year, month, dayOfYear - (153 * monthFromMarch + 2) / 5 + 1⟩

/-- Number of the first day of 1970. -/
def Date.epoch : Nat := 719163

/-- The point in universal time that lies a number of microseconds after the start of 1970. -/
def Moment.ofMicroseconds (microseconds : Nat) : Moment :=
  let seconds := microseconds / 1000000
  { date := .ofOrdinal (Date.epoch + seconds / 86400)
    hour := seconds / 3600 % 24
    minute := seconds / 60 % 60
    second := seconds % 60
    microsecond := microseconds % 1000000
    offset := some 0 }

end ShellVet
