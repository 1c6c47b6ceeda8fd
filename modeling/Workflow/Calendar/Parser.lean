import Workflow.Calendar.Basic
import Workflow.Text.Blank

/-! Reading dates and moments: a strict form, and a form with room for white space. -/
namespace Workflow.Calendar

inductive ParseError where
  | outOfRange
  /-- In universal time the moment belongs to a year that no date has. -/
  | impossible
  | invalid
  | tooShort
  | tooLong
  deriving DecidableEq, Repr

def ParseError.message : ParseError → String
  | outOfRange => "input is out of range"
  | impossible => "no possible date and time matching input"
  | invalid => "input contains invalid characters"
  | tooShort => "premature end of input"
  | tooLong => "trailing input"

abbrev Parse (α : Type) := List Char → Except ParseError (α × List Char)

def ofDigits (ds : List Char) : Nat := ds.foldl (fun n c => 10 * n + (c.toNat - 48)) 0

/-- The bytes that a text takes. -/
def byteLength (s : List Char) : Nat := (s.map Char.utf8Size).foldl (· + ·) 0

/-- A number of `least` to `most` digits. -/
def number (least most : Nat) : Parse Nat := fun s =>
  let digits := (s.take most).takeWhile Char.isDigit
  if byteLength s < least then .error .tooShort
  else if digits.length < least then .error .invalid
  else if Nat.pow 2 63 ≤ ofDigits digits then .error .outOfRange
  else .ok (ofDigits digits, s.drop digits.length)

def char (c : Char) : Parse Unit
  | [] => .error .tooShort
  | d :: s => if d = c then .ok ((), s) else .error .invalid

/-- A number within bounds. -/
def bounded (p : Parse Nat) (lo hi : Nat) : Parse Nat := fun s => do
  let (n, r) ← p s
  if lo ≤ n ∧ n ≤ hi then .ok (n, r) else .error .outOfRange

/-- The digits behind a decimal point, as nanoseconds; digits from the tenth on are dropped. -/
def nanoseconds : Parse Nat := fun s => do
  let (n, r) ← number 1 9 s
  let width := s.length - r.length
  .ok (n * Nat.pow 10 (9 - width), r.dropWhile Char.isDigit)

/-- A fraction, if there is one. -/
def fraction : Parse Nat
  | '.' :: s => nanoseconds s
  | s => .ok (0, s)

/-- Two digits. -/
def twoDigits (s : List Char) : Option (Char × Char × List Char) :=
  match s with
  | a :: b :: r => some (a, b, r)
  | _ => none

/-- The distance of a clock from universal time in seconds. -/
def offset (separator : Parse Unit) : Parse Int := fun s =>
  match s with
  | [] => .error .tooShort
  | c :: s =>
    if c = 'Z' ∨ c = 'z' then .ok (0, s)
    else if c = '+' then signed 1 s
    else if c = '-' ∨ c = '\u2212' then signed (-1) s
    else .error .invalid
where
  signed (sign : Int) (s : List Char) : Except ParseError (Int × List Char) := do
    if byteLength s < 2 then throw .tooShort
    match twoDigits s with
    | none => .error .invalid
    | some (a, b, r) =>
      if !(a.isDigit && b.isDigit) then throw .invalid
      let (_, r) ← separator r
      if byteLength r < 2 then throw .tooShort
      match twoDigits r with
      | none => .error .invalid
      | some (c, d, r) =>
        if !(c.isDigit && d.isDigit) then throw .invalid
        if '6' ≤ c then throw .outOfRange
        .ok (sign * (ofDigits [a, b] * 3600 + ofDigits [c, d] * 60 : Nat), r)

/-- A date and a time of day on a clock, as far as they are read. -/
structure Reading where
  year : Int
  month : Nat
  day : Nat
  hour : Nat
  minute : Nat
  second : Nat
  nanosecond : Nat

/-- The moment of a reading; second 60 is the leap second behind second 59. -/
def Reading.toMoment (r : Reading) (offset : Int) : Except ParseError Moment :=
  let date : Date := ⟨r.year, r.month, r.day⟩
  let leap := r.second = 60
  let second := r.hour * 3600 + r.minute * 60 + if leap then 59 else r.second
  let nanos := r.nanosecond + if leap then 1000000000 else 0
  if !date.isValid then .error .outOfRange
  else if 86400 ≤ offset.natAbs then .error .outOfRange
  else
    let moment := Moment.ofLocal date second nanos offset
    if moment.date.isValid then .ok moment else .error .impossible

/-- The mark between date and time. -/
def separatorT : Parse Unit
  | [] => .error .tooShort
  | c :: s => if c = 'T' ∨ c = 't' ∨ c = ' ' then .ok ((), s) else .error .invalid

/-- A moment in the strict form `2024-05-01T10:00:00.5+02:00`. -/
def strictMoment (text : String) : Except ParseError Moment := do
  let (year, s) ← number 4 4 text.toList
  let (_, s) ← char '-' s
  let (month, s) ← bounded (number 2 2) 1 12 s
  let (_, s) ← char '-' s
  let (day, s) ← bounded (number 2 2) 1 31 s
  let (_, s) ← separatorT s
  let (hour, s) ← bounded (number 2 2) 0 23 s
  let (_, s) ← char ':' s
  let (minute, s) ← bounded (number 2 2) 0 59 s
  let (_, s) ← char ':' s
  let (second, s) ← bounded (number 2 2) 0 60 s
  let (nanosecond, s) ← fraction s
  let (offset, s) ← offset (char ':') s
  if 86340 < offset.natAbs then throw .outOfRange
  if !s.isEmpty then throw .tooLong
  Reading.toMoment { year, month, day, hour, minute, second, nanosecond } offset

/-- A number of at most `most` digits behind white space. -/
def spaced (most : Nat) : Parse Nat := fun s => number 1 most (Text.trimStart s)

/-- A year behind white space: at most four digits, or any number of digits behind a sign. -/
def spacedYear : Parse Int := fun s => do
  let (y, r) ← match Text.trimStart s with
    | '-' :: r => do
      let (n, r) ← number 1 r.length.succ r
      pure (-(n : Int), r)
    | '+' :: r => do
      let (n, r) ← number 1 r.length.succ r
      pure ((n : Int), r)
    | r => do
      let (n, r) ← number 1 4 r
      pure ((n : Int), r)
  if -Int.pow 2 31 ≤ y ∧ y < Int.pow 2 31 then .ok (y, r) else .error .outOfRange

/-- A mark behind white space. -/
def spacedChar (c : Char) : Parse Unit := fun s => char c (Text.trimStart s)

def dropColons : Parse Unit := fun s =>
  .ok ((), s.dropWhile fun c => c == ':' || Text.isBlank c)

/-- A moment in the form with room for white space between its parts. -/
def relaxedMoment (text : String) : Except ParseError Moment := do
  let (year, s) ← spacedYear text.toList
  let (_, s) ← spacedChar '-' s
  let (month, s) ← bounded (spaced 2) 1 12 s
  let (_, s) ← spacedChar '-' s
  let (day, s) ← bounded (spaced 2) 1 31 s
  let (_, s) ← separatorT s
  let (hour, s) ← bounded (spaced 2) 0 23 s
  let (_, s) ← spacedChar ':' s
  let (minute, s) ← bounded (spaced 2) 0 59 s
  let (_, s) ← spacedChar ':' s
  let (second, s) ← bounded (spaced 2) 0 60 s
  let (nanosecond, s) ← fraction s
  let (offset, s) ← match Text.trimStart s with
    | a :: b :: c :: r =>
      if [a, b, c].map Char.toLower = ['u', 't', 'c'] then pure (0, r)
      else offset dropColons (a :: b :: c :: r)
    | r => offset dropColons r
  if !(Text.trimStart s).isEmpty then throw .tooLong
  Reading.toMoment { year, month, day, hour, minute, second, nanosecond } offset

/-- A date in the form `2024-05-01`, with white space before its numbers. -/
def date (text : String) : Except ParseError Date := do
  let (year, s) ← spacedYear text.toList
  let (_, s) ← char '-' s
  let (month, s) ← bounded (spaced 2) 1 12 s
  let (_, s) ← char '-' s
  let (day, s) ← bounded (spaced 2) 1 31 s
  if !s.isEmpty then throw .tooLong
  let d : Date := ⟨year, month, day⟩
  if d.isValid then .ok d else .error .outOfRange

/-- Whether a text is a date or a moment. -/
def isDate (text : String) : Bool := (strictMoment text).isOk || (date text).isOk

end Workflow.Calendar
