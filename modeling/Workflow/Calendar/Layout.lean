import Workflow.Calendar.Basic

/-! Texts of moments laid out by a pattern of signs that follow a percent sign. -/
namespace Workflow.Layout

inductive Padding where
  | none
  | zero
  | space
  deriving DecidableEq, Repr

/-- A number that belongs to a moment. -/
inductive Field where
  | year
  | century
  | yearOfCentury
  | weekYear
  | yearOfCenturyOfWeek
  | quarter
  | month
  | day
  | weekFromSunday
  | weekFromMonday
  | week
  | daysFromSunday
  | dayOfWeek
  | ordinal
  | hour
  | halfHour
  | minute
  | second
  | nanosecond
  | unix
  deriving DecidableEq, Repr

/-- The offset from universal time: hours alone, hours and minutes with no mark or with a colon
between, or seconds as well. -/
inductive Offset where
  | hours
  | plain
  | minutes
  | seconds
  deriving DecidableEq, Repr

inductive Item where
  | literal (text : String)
  | number (field : Field) (padding : Padding)
  | weekdayName (short : Bool)
  | monthName (short : Bool)
  | half (capital : Bool)
  | zone
  | offset (detail : Offset)
  /-- The fraction of the second behind a point, in as many digits as it needs. -/
  | fraction
  /-- The fraction of the second in three, six or nine digits. -/
  | digits (point : Bool) (width : Nat)
  | whole
  deriving DecidableEq, Repr

def zeroed (field : Field) : Item := .number field .zero

def clock : List Item :=
  [zeroed .hour, .literal ":", zeroed .minute, .literal ":", zeroed .second]

/-- The items of a sign that stands for several. -/
def compound? : Char → Option (List Item)
  | 'D' | 'x' => some [zeroed .month, .literal "/", zeroed .day, .literal "/",
      zeroed .yearOfCentury]
  | 'F' => some [zeroed .year, .literal "-", zeroed .month, .literal "-", zeroed .day]
  | 'R' => some [zeroed .hour, .literal ":", zeroed .minute]
  | 'T' | 'X' => some clock
  | 'c' => some ([.weekdayName true, .literal " ", .monthName true, .literal " ",
      .number .day .space, .literal " "] ++ clock ++ [.literal " ", zeroed .year])
  | 'r' => some [zeroed .halfHour, .literal ":", zeroed .minute, .literal ":", zeroed .second,
      .literal " ", .half true]
  | 'v' => some [.number .day .space, .literal "-", .monthName true, .literal "-", zeroed .year]
  | _ => none

/-- The item of a sign that stands for a number. -/
def number? : Char → Option (Field × Padding)
  | 'C' => some (.century, .zero)
  | 'G' => some (.weekYear, .zero)
  | 'H' => some (.hour, .zero)
  | 'I' => some (.halfHour, .zero)
  | 'M' => some (.minute, .zero)
  | 'S' => some (.second, .zero)
  | 'U' => some (.weekFromSunday, .zero)
  | 'V' => some (.week, .zero)
  | 'W' => some (.weekFromMonday, .zero)
  | 'Y' => some (.year, .zero)
  | 'd' => some (.day, .zero)
  | 'e' => some (.day, .space)
  | 'f' => some (.nanosecond, .zero)
  | 'g' => some (.yearOfCenturyOfWeek, .zero)
  | 'j' => some (.ordinal, .zero)
  | 'k' => some (.hour, .space)
  | 'l' => some (.halfHour, .space)
  | 'm' => some (.month, .zero)
  | 'q' => some (.quarter, .none)
  | 's' => some (.unix, .none)
  | 'u' => some (.dayOfWeek, .none)
  | 'w' => some (.daysFromSunday, .none)
  | 'y' => some (.yearOfCentury, .zero)
  | _ => none

/-- The item of any other sign of one character. -/
def fixed? : Char → Option Item
  | 'A' => some (.weekdayName false)
  | 'B' => some (.monthName false)
  | 'P' => some (.half false)
  | 'Z' => some .zone
  | 'a' => some (.weekdayName true)
  | 'b' | 'h' => some (.monthName true)
  | 'n' => some (.literal "\n")
  | 'p' => some (.half true)
  | 't' => some (.literal "\t")
  | 'z' => some (.offset .plain)
  | '+' => some .whole
  | '%' => some (.literal "%")
  | _ => none

def width? : Char → Option Nat
  | '3' => some 3
  | '6' => some 6
  | '9' => some 9
  | _ => none

def padding? : Char → Option Padding
  | '-' => some .none
  | '0' => some .zero
  | '_' => some .space
  | _ => none

/-- The items behind a percent sign, and the rest. Only single numbers can be padded differently. -/
def sign? : List Char → Option (List Item × List Char)
  | ':' :: ':' :: ':' :: 'z' :: s => some ([.offset .hours], s)
  | ':' :: ':' :: 'z' :: s => some ([.offset .seconds], s)
  | ':' :: 'z' :: s => some ([.offset .minutes], s)
  | '#' :: 'z' :: s => some ([.offset .plain], s)
  | '.' :: 'f' :: s => some ([.fraction], s)
  | '.' :: d :: 'f' :: s => (width? d).map fun w => ([.digits true w], s)
  | c :: s => match padding? c with
    | some padding => match s with
      | d :: s => (number? d).map fun (field, _) => ([.number field padding], s)
      | [] => none
    | none => match width? c with
      | some w => match s with
        | 'f' :: s => some ([.digits false w], s)
        | _ => none
      | none => match number? c, compound? c with
        | some (field, padding), _ => some ([.number field padding], s)
        | none, some items => some (items, s)
        | none, none => (fixed? c).map fun item => ([item], s)
  | [] => none

/-- The items of a pattern, unless it has a sign that stands for nothing. The fuel is the length
of the pattern. -/
def parseFrom : Nat → List Char → Option (List Item)
  | 0, _ => some []
  | _ + 1, [] => some []
  | fuel + 1, '%' :: s => do
    let (items, s) ← sign? s
    return items ++ (← parseFrom fuel s)
  | fuel + 1, c :: s => do
    return .literal c.toString :: (← parseFrom fuel s)

def parse (pattern : String) : Option (List Item) :=
  parseFrom pattern.length pattern.toList

/-- Digits filled up on the left. -/
def fill (width : Nat) (padding : Padding) (digits : String) : String :=
  let missing := width - digits.length
  match padding with
  | .none => digits
  | .zero => String.ofList (List.replicate missing '0') ++ digits
  | .space => String.ofList (List.replicate missing ' ') ++ digits

/-- A year has a sign outside of four digits. -/
def yearText (padding : Padding) (year : Int) : String :=
  if 0 ≤ year ∧ year ≤ 9999 then fill 4 padding (toString year)
  else
    let sign := if year < 0 then "-" else "+"
    match padding with
    | .space => fill 5 .space (sign ++ toString year.natAbs)
    | p => sign ++ fill 4 p (toString year.natAbs)

def halfHour (m : Moment) : Nat :=
  let h := m.second / 3600 % 12
  if h = 0 then 12 else h

def fieldText (m : Moment) (padding : Padding) (field : Field) : String :=
  let d := m.date
  let two (n : Int) := fill 2 padding (toString n)
  match field with
  | .year => yearText padding d.year
  | .century => two (d.year / 100)
  | .yearOfCentury => two (d.year % 100)
  | .weekYear => yearText padding d.thursday.year
  | .yearOfCenturyOfWeek => two (d.thursday.year % 100)
  | .quarter => toString ((d.month + 2) / 3)
  | .month => two d.month
  | .day => two d.day
  | .weekFromSunday => two (d.weekFrom 6)
  | .weekFromMonday => two (d.weekFrom 0)
  | .week => two ((d.thursday.ordinal - 1) / 7 + 1)
  | .daysFromSunday => toString ((d.weekday + 1) % 7)
  | .dayOfWeek => toString (d.weekday + 1)
  | .ordinal => fill 3 padding (toString d.ordinal)
  | .hour => two (m.second / 3600)
  | .halfHour => two (halfHour m)
  | .minute => two (m.second / 60 % 60)
  | .second => two (m.second % 60 + m.nanosecond / 1000000000)
  | .nanosecond => fill 9 padding (toString (m.nanosecond % 1000000000))
  | .unix => fill 9 padding (toString m.unix)

def weekdayNames : List String :=
  ["Monday", "Tuesday", "Wednesday", "Thursday", "Friday", "Saturday", "Sunday"]

def monthNames : List String := ["January", "February", "March", "April", "May", "June", "July",
  "August", "September", "October", "November", "December"]

def nameText (names : List String) (n : Nat) (short : Bool) : String :=
  let name := names.getD n ""
  if short then String.ofList (name.toList.take 3) else name

def Offset.text : Offset → String
  | hours => "+00"
  | plain => "+0000"
  | minutes => "+00:00"
  | seconds => "+00:00:00"

def itemText (m : Moment) : Item → String
  | .literal s => s
  | .number field padding => fieldText m padding field
  | .weekdayName short => nameText weekdayNames m.date.weekday short
  | .monthName short => nameText monthNames (m.date.month - 1) short
  | .half capital =>
    if m.second < 43200 then (if capital then "AM" else "am") else if capital then "PM" else "pm"
  | .zone => "UTC"
  | .offset detail => detail.text
  | .fraction => Moment.fractionText (m.nanosecond % 1000000000)
  | .digits point width =>
    let nanos := m.nanosecond % 1000000000
    (if point then "." else "") ++ Moment.padded width (nanos / Nat.pow 10 (9 - width))
  | .whole => m.numericText

def text (m : Moment) (items : List Item) : String := String.join (items.map (itemText m))

end Workflow.Layout
