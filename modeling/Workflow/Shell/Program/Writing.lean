import Workflow.Shell.Program.Basic

/-! Programs that write their arguments. -/
namespace Workflow.Shell.Program

/-- The number that at most `count` digits denote, and the rest. -/
def takeDigits (base count : Nat) (s : List Char) : Option (Nat × List Char) :=
  let ds := (s.take count).takeWhile fun c => (Arithmetic.digit? base c).isSome
  if ds.isEmpty then none
  else some (ds.foldl (fun n c => base * n + (Arithmetic.digit? base c).getD 0) 0, s.drop ds.length)

/-- What an escape stands for. -/
inductive Escaped where
  | bytes (bs : Bytes) (rest : List Char)
  /-- Nothing more is written. -/
  | stop
  deriving DecidableEq, Repr

/-- The escape behind a backslash. Octal numbers stand behind a zero, or else on their own if
`bareOctal`. -/
def unescape (bareOctal : Bool) (s : List Char) : Escaped :=
  let byte (n : Nat) (r : List Char) : Escaped := .bytes [n.toUInt8] r
  match s with
  | 'a' :: r => byte 7 r
  | 'b' :: r => byte 8 r
  | 'c' :: _ => .stop
  | 'e' :: r => byte 27 r
  | 'f' :: r => byte 12 r
  | 'n' :: r => byte 10 r
  | 'r' :: r => byte 13 r
  | 't' :: r => byte 9 r
  | 'v' :: r => byte 11 r
  | '\\' :: r => byte 92 r
  | 'x' :: r => match takeDigits 16 2 r with
    | some (n, r) => byte n r
    | none => .bytes [92, 120] r
  | 'u' :: r => match takeDigits 16 4 r with
    | some (n, r) => .bytes (utf8Chars [Char.ofNat n]) r
    | none => .bytes [92, 117] r
  | 'U' :: r => match takeDigits 16 8 r with
    | some (n, r) => .bytes (utf8Chars [Char.ofNat n]) r
    | none => .bytes [92, 85] r
  | '0' :: r =>
    if bareOctal then match takeDigits 8 3 ('0' :: r) with
      | some (n, r) => byte n r
      | none => byte 0 r
    else match takeDigits 8 3 r with
      | some (n, r) => byte n r
      | none => byte 0 r
  | c :: r =>
    if bareOctal then match takeDigits 8 3 (c :: r) with
      | some (n, r) => byte n r
      | none => .bytes (92 :: utf8Chars [c]) r
    else .bytes (92 :: utf8Chars [c]) r
  | [] => .bytes [92] []

/-- A text with its escapes, and whether the writing goes on behind it. The fuel is its length. -/
def unescapeAll (bareOctal : Bool) : Nat → List Char → Bytes × Bool
  | 0, _ => ([], true)
  | _ + 1, [] => ([], true)
  | fuel + 1, '\\' :: r => match unescape bareOctal r with
    | .stop => ([], false)
    | .bytes bs r =>
      let (rest, more) := unescapeAll bareOctal fuel r
      (bs ++ rest, more)
  | fuel + 1, c :: r =>
    let (rest, more) := unescapeAll bareOctal fuel r
    (utf8Chars [c] ++ rest, more)

/-- The letters of an argument that holds nothing but options for writing. -/
def echoOption? (a : String) : Option (List Char) :=
  match a.toList with
  | '-' :: c :: r => if (c :: r).all ['n', 'e', 'E'].contains then some (c :: r) else none
  | _ => none

/-- Write the arguments with blanks between them. -/
def echo : Behaviour := fun s =>
  let options := s.arguments.takeWhile fun a => (echoOption? a).isSome
  let letters := (options.filterMap echoOption?).flatten
  let operands := s.arguments.drop options.length
  let escapes := (letters.reverse.find? (· != 'n')) == some 'e'
  let text := (" ".intercalate operands).toList
  let (bytes, more) := if escapes then unescapeAll false (text.length + 1) text
    else (utf8Chars text, true)
  s.print (if letters.contains 'n' || !more then bytes else bytes ++ [10])

/-- How a value is laid out. -/
structure Field where
  left : Bool := false
  zeros : Bool := false
  plus : Bool := false
  space : Bool := false
  alternate : Bool := false
  width : Nat := 0
  precision : Option Nat := none
  deriving DecidableEq, Repr

namespace Field

/-- The flags at the front of a directive. -/
def flags : List Char → Field → Field × List Char
  | '-' :: r, f => flags r { f with left := true }
  | '0' :: r, f => flags r { f with zeros := true }
  | '+' :: r, f => flags r { f with plus := true }
  | ' ' :: r, f => flags r { f with space := true }
  | '#' :: r, f => flags r { f with alternate := true }
  | r, f => (f, r)

/-- Fill up to the width. -/
def pad (f : Field) (bytes : Bytes) : Bytes :=
  let fill := List.replicate (f.width - bytes.length) (32 : UInt8)
  if f.left then bytes ++ fill else fill ++ bytes

/-- A number of the given sign and digits. -/
def number (f : Field) (negative : Bool) (lead : String) (digits : String) : Bytes :=
  let sign := if negative then "-" else if f.plus then "+" else if f.space then " " else ""
  let digits := match f.precision with
    | some p => String.ofList (List.replicate (p - digits.length) '0') ++ digits
    | none =>
      if f.zeros && !f.left then
        let missing := f.width - sign.length - lead.length - digits.length
        String.ofList (List.replicate missing '0') ++ digits
      else digits
  f.pad (utf8 (sign ++ lead ++ digits))

end Field

/-- The integer of an argument, and whether it is one. A quote stands before a character. -/
def integerOf (a : String) : Int × Bool :=
  let s := a.toList.dropWhile fun c => c == ' ' || c == '\t' || c == '\n'
  match s with
  | [] => (0, true)
  | ['\'', c] | ['"', c] => (c.toNat, true)
  | _ =>
    let (negative, r) := match s with
      | '-' :: r => (true, r)
      | '+' :: r => (false, r)
      | r => (false, r)
    let (base, r) := match r with
      | '0' :: 'x' :: r | '0' :: 'X' :: r => (16, r)
      | '0' :: r => (8, '0' :: r)
      | r => (10, r)
    match takeDigits base r.length r with
    | none => (0, false)
    | some (n, rest) => (if negative then -(n : Int) else n, rest.isEmpty)

/-- The decimal number of an argument as an integer and a number of places. -/
def decimalOf (a : String) : Option (Bool × Nat × Nat) := do
  let (negative, r) := match a.toList with
    | '-' :: r => (true, r)
    | '+' :: r => (false, r)
    | r => (false, r)
  let whole := r.takeWhile Char.isDigit
  let rest := r.dropWhile Char.isDigit
  let value (cs : List Char) : Nat := cs.foldl (fun n c => 10 * n + (c.toNat - 48)) 0
  match rest with
  | [] => if whole.isEmpty then none else some (negative, value whole, 0)
  | '.' :: places =>
    if places.all Char.isDigit && !(whole.isEmpty && places.isEmpty) then
      some (negative, value (whole ++ places), places.length)
    else none
  | _ => none

/-- A quotient rounded to the nearest integer, a half to the even one. -/
def roundQuotient (n d : Nat) : Nat :=
  let q := n / d
  let r := n % d
  if d < 2 * r || (2 * r = d && q % 2 = 1) then q + 1 else q

/-- A decimal number with the given number of places. -/
def fixedText (n places precision : Nat) : String :=
  let scaled := roundQuotient (n * Nat.pow 10 precision) (Nat.pow 10 places)
  let digits := toString scaled
  let digits := String.ofList (List.replicate (precision + 1 - digits.length) '0') ++ digits
  let cut := digits.length - precision
  if precision = 0 then digits
  else String.ofList (digits.toList.take cut) ++ "." ++ String.ofList (digits.toList.drop cut)

/-- A text in quotes where it needs some. -/
def shellQuoted (a : String) : String :=
  let isSafe (c : Char) : Bool := c.isAlphanum || "_-./:=@%+,".toList.contains c
  if a.isEmpty then "''"
  else String.ofList (a.toList.flatMap fun c => if isSafe c then [c] else ['\\', c])

/-- What a directive writes of an argument: the bytes, a complaint, and whether to go on. -/
def convert (f : Field) (kind : Char) (a : Option String) : Bytes × Option String × Bool :=
  let arg := a.getD ""
  let cut (bs : Bytes) : Bytes := match f.precision with
    | some p => bs.take p
    | none => bs
  let (n, valid) := match a with
    | some a => integerOf a
    | none => (0, true)
  let complaint := if valid then none else some (arg ++ ": invalid number")
  let natural := (if n < 0 then n + Int.pow 2 64 else n).toNat
  let inBase (base : Nat) : String := String.ofList (Nat.toDigits base natural)
  match kind with
  | 's' => (f.pad (cut (utf8 arg)), none, true)
  | 'b' =>
    let (bytes, more) := unescapeAll false (arg.length + 1) arg.toList
    (f.pad (cut bytes), none, more)
  | 'q' => (f.pad (utf8 (shellQuoted arg)), none, true)
  | 'c' => (f.pad (utf8Chars (arg.toList.take 1)), none, true)
  | 'd' | 'i' => (f.number (n < 0) "" (toString n.natAbs), complaint, true)
  | 'u' => (f.number false "" (toString natural), complaint, true)
  | 'o' => (f.number false (if f.alternate then "0" else "") (inBase 8), complaint, true)
  | 'x' => (f.number false (if f.alternate then "0x" else "") (inBase 16), complaint, true)
  | 'X' => (f.number false (if f.alternate then "0X" else "") (inBase 16).toUpper, complaint, true)
  | _ => match decimalOf (if arg.isEmpty then "0" else arg) with
    | some (negative, n, places) =>
      (({ f with precision := none }).number negative "" (fixedText n places (f.precision.getD 6)),
        none, true)
    | none => (utf8 (fixedText 0 0 (f.precision.getD 6)), some (arg ++ ": invalid number"), true)

/-- What has been written while a format is gone through. -/
structure Printing where
  out : Bytes := []
  complaints : List String := []
  arguments : List String
  /-- Whether an argument was asked for. -/
  asked : Bool := false
  ended : Bool := false
  deriving DecidableEq, Repr

namespace Printing

def write (p : Printing) (bytes : Bytes) : Printing := { p with out := p.out ++ bytes }

def next (p : Printing) : Option String × Printing :=
  match p.arguments with
  | [] => (none, { p with asked := true })
  | a :: rest => (some a, { p with arguments := rest, asked := true })

/-- A width or a precision: digits, or a star for an argument. -/
def size (p : Printing) (s : List Char) : Option Nat × Printing × List Char :=
  match s with
  | '*' :: r =>
    let (a, p) := p.next
    (some ((integerOf (a.getD "0")).1.toNat), p, r)
  | s => match takeDigits 10 s.length s with
    | some (n, r) => (some n, p, r)
    | none => (none, p, s)

/-- Go through a format once. The fuel is its length. -/
def format : Nat → List Char → Printing → Printing
  | 0, _, p => p
  | _ + 1, [], p => p
  | fuel + 1, '\\' :: '"' :: r, p => format fuel r (p.write [34])
  | fuel + 1, '\\' :: r, p => match unescape true r with
    | .stop => { p with ended := true }
    | .bytes bs r => format fuel r (p.write bs)
  | fuel + 1, '%' :: '%' :: r, p => format fuel r (p.write [37])
  | fuel + 1, '%' :: r, p =>
    let (f, r) := Field.flags r {}
    let (width, p, r) := p.size r
    let f := { f with width := width.getD 0 }
    let (f, p, r) := match r with
      | '.' :: r =>
        let (precision, p, r) := p.size r
        ({ f with precision := some (precision.getD 0) }, p, r)
      | r => (f, p, r)
    match r with
    | [] =>
      { p with ended := true, complaints := p.complaints ++ ["%: missing format character"] }
    | kind :: r =>
      if !("sbqcdiuoxXfFeEgG".toList).contains kind then
        { p with
          ended := true
          complaints := p.complaints ++ ["\x60" ++ String.singleton kind
            ++ "': invalid format character"] }
      else
        let (a, p) := p.next
        let (bytes, complaint, more) := convert f kind a
        let p := { p.write bytes with complaints := p.complaints ++ complaint.toList }
        if more then format fuel r p else { p with ended := true }
  | fuel + 1, c :: r, p => format fuel r (p.write (utf8Chars [c]))

/-- Use a format again as long as there are arguments for it. The fuel is their number. -/
def again (s : List Char) : Nat → Printing → Printing
  | 0, p => p
  | fuel + 1, p =>
    let p := format (s.length + 1) s { p with asked := false }
    if p.ended || p.arguments.isEmpty || !p.asked then p else again s fuel p

end Printing

/-- Write the arguments, always with their escapes. -/
def echoEscaped : Behaviour := fun s =>
  let silent := s.arguments.head? == some "-n"
  let text := (" ".intercalate (if silent then s.arguments.drop 1 else s.arguments)).toList
  let (bytes, more) := unescapeAll false (text.length + 1) text
  s.print (if silent || !more then bytes else bytes ++ [10])

/-- Write arguments as a format says. -/
def printf : Behaviour := fun s =>
  let arguments := match s.arguments with
    | "--" :: rest => rest
    | rest => rest
  match arguments with
  | [] => { err := utf8 "printf: usage: printf [-v var] format [arguments]\n"
            status := 2
            input := s.input }
  | format :: arguments =>
    let p := Printing.again format.toList (arguments.length + 1) { arguments }
    { out := p.out
      err := (p.complaints.map s.complaint).flatten
      status := if p.complaints.isEmpty then 0 else 1
      input := s.input }

end Workflow.Shell.Program
