/-! Dates of the proleptic calendar, and moments in universal time. -/
namespace Workflow

structure Date where
  year : Int
  month : Nat
  day : Nat
  deriving DecidableEq, Repr, Inhabited

namespace Date

def isLeap (year : Int) : Bool := year % 4 == 0 && (year % 100 != 0 || year % 400 == 0)

def daysInMonth (year : Int) : Nat → Nat
  | 2 => if isLeap year then 29 else 28
  | 4 | 6 | 9 | 11 => 30
  | _ => 31

/-- The years that a date may have. -/
def leastYear : Int := -262143
def greatestYear : Int := 262142

def isValid (d : Date) : Bool :=
  leastYear ≤ d.year && d.year ≤ greatestYear && 1 ≤ d.month && d.month ≤ 12 && 1 ≤ d.day
    && d.day ≤ daysInMonth d.year d.month

def next (d : Date) : Date :=
  if d.day < daysInMonth d.year d.month then { d with day := d.day + 1 }
  else if d.month < 12 then ⟨d.year, d.month + 1, 1⟩
  else ⟨d.year + 1, 1, 1⟩

def prev (d : Date) : Date :=
  if 1 < d.day then { d with day := d.day - 1 }
  else if 1 < d.month then ⟨d.year, d.month - 1, daysInMonth d.year (d.month - 1)⟩
  else ⟨d.year - 1, 12, 31⟩

end Date

/-- A moment. Nanoseconds from `10 ^ 9` on belong to a leap second. -/
structure Moment where
  date : Date
  second : Nat
  nanosecond : Nat
  deriving DecidableEq, Repr, Inhabited

namespace Moment

/-- The moment with that reading on a clock which is `offset` seconds ahead, by less than a day. -/
def ofLocal (date : Date) (second nanosecond : Nat) (offset : Int) : Moment :=
  let s := (second : Int) - offset
  if s < 0 then ⟨date.prev, (s + 86400).toNat, nanosecond⟩
  else if 86400 ≤ s then ⟨date.next, (s - 86400).toNat, nanosecond⟩
  else ⟨date, s.toNat, nanosecond⟩

/-- A number with zeros before it up to `width` digits. -/
def padded (width n : Nat) : String :=
  let digits := Nat.repr n
  String.ofList (List.replicate (width - digits.length) '0') ++ digits

/-- Four digits, or a sign and at least four digits outside of the years 0 to 9999. -/
def yearText (year : Int) : String :=
  if 0 ≤ year ∧ year ≤ 9999 then padded 4 year.toNat
  else (if year < 0 then "-" else "+") ++ padded 4 year.natAbs

/-- The fraction of a second with as few groups of three digits as show it. -/
def fractionText (nanos : Nat) : String :=
  if nanos = 0 then ""
  else if nanos % 1000000 = 0 then "." ++ padded 3 (nanos / 1000000)
  else if nanos % 1000 = 0 then "." ++ padded 6 (nanos / 1000)
  else "." ++ padded 9 nanos

/-- The moment without the mark of its time zone. -/
def bareText (m : Moment) : String :=
  yearText m.date.year ++ "-" ++ padded 2 m.date.month ++ "-" ++ padded 2 m.date.day ++ "T"
    ++ padded 2 (m.second / 3600) ++ ":" ++ padded 2 (m.second / 60 % 60) ++ ":"
    ++ padded 2 (m.second % 60 + m.nanosecond / 1000000000)
    ++ fractionText (m.nanosecond % 1000000000)

def text (m : Moment) : String := m.bareText ++ "Z"

/-- The moment with its time zone as a number. -/
def numericText (m : Moment) : String := m.bareText ++ "+00:00"

end Moment

/-! ### Days and seconds counted from the first of January 1970, and weeks -/

namespace Date

/-- The place of the day in its year, from one on. -/
def ordinal (d : Date) : Nat :=
  ((List.range (d.month - 1)).map fun m => daysInMonth d.year (m + 1)).foldr (· + ·) 0 + d.day

/-- The number of leap years before a year, counted from the year one. -/
def leapsBefore (year : Int) : Int := (year - 1) / 4 - (year - 1) / 100 + (year - 1) / 400

def dayNumber (d : Date) : Int :=
  365 * (d.year - 1970) + leapsBefore d.year - leapsBefore 1970 + d.ordinal - 1

/-- The date with a day number. Years are counted from March on in spans of four hundred. -/
def ofDayNumber (n : Int) : Date :=
  let z := n + 719468
  let span := z / 146097
  let day := (z % 146097).toNat
  let year := (day - day / 1460 + day / 36524 - day / 146096) / 365
  let day := day - (365 * year + year / 4 - year / 100)
  let march := (5 * day + 2) / 153
  let month := if march < 10 then march + 3 else march - 9
  ⟨400 * span + year + (if month ≤ 2 then 1 else 0), month, day - (153 * march + 2) / 5 + 1⟩

/-- The day of the week, Monday being zero. -/
def weekday (d : Date) : Nat := ((d.dayNumber + 3) % 7).toNat

/-- The Thursday of the week of a day, which tells the year that the week belongs to. -/
def thursday (d : Date) : Date := ofDayNumber (d.dayNumber - d.weekday + 3)

/-- The week of a year whose first week starts with its first day `first` of the week. -/
def weekFrom (d : Date) (first : Nat) : Nat := (d.ordinal + 6 - (d.weekday + 7 - first) % 7) / 7

end Date

namespace Moment

/-- The moment a number of seconds after the first of January 1970. -/
def ofUnix (seconds : Int) (nanosecond : Nat) : Moment :=
  ⟨.ofDayNumber (seconds / 86400), (seconds % 86400).toNat, nanosecond⟩

def unix (m : Moment) : Int := 86400 * m.date.dayNumber + m.second

end Moment

end Workflow
