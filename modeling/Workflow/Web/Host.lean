import Workflow.Text.Search
import Workflow.Web.Label
import Workflow.Web.Coding
import Workflow.Web.Punycode

/-! Hosts in addresses: names, and numbers of the fourth and the sixth version. -/
namespace Workflow.Web

/-- A number in an address of the fourth version: decimal, octal after a zero, or hexadecimal. -/
def hostNumber? (s : List Char) : Option Nat :=
  let parse (base : Nat) (ds : List Char) : Option Nat :=
    ds.foldlM (fun n c => match hexDigit? c with
      | some d => if d < base then some (base * n + d) else none
      | none => none) 0
  match s with
  | [] => none
  | '0' :: 'x' :: ds => parse 16 ds
  | '0' :: 'X' :: ds => parse 16 ds
  | '0' :: ds => parse 8 ds
  | ds => parse 10 ds

/-- The parts of a name, without an empty last one. -/
def nameParts (name : List Char) : List (List Char) :=
  let parts := Text.splitAt '.' name
  if 1 < parts.length && parts.getLast? == some [] then parts.dropLast else parts

/-- Whether a name has to be a number. -/
def endsInNumber (name : List Char) : Bool :=
  match (nameParts name).getLast? with
  | none => false
  | some last => (!last.isEmpty && last.all Char.isDigit)
      || ((['0', 'x'].isPrefixOf last || ['0', 'X'].isPrefixOf last) && (hostNumber? last).isSome)

def dotted (n : Nat) : List Char :=
  let part k := (Nat.repr (n / Nat.pow 256 k % 256)).toList
  part 3 ++ ['.'] ++ part 2 ++ ['.'] ++ part 1 ++ ['.'] ++ part 0

/-- The dotted form of an address of the fourth version. The last number fills all the places that
are left. -/
def fourth? (name : List Char) : Option (List Char) := do
  let parts := nameParts name
  if 4 < parts.length then none
  let numbers ← parts.mapM hostNumber?
  let last ← numbers.getLast?
  let heads := numbers.dropLast
  if heads.any (255 < ·) || Nat.pow 256 (5 - numbers.length) ≤ last then none
  let high := (heads.zipIdx.map fun (n, i) => n * Nat.pow 256 (3 - i)).foldr (· + ·) 0
  some (dotted (high + last))

/-- The pieces of one side of an address of the sixth version; the last one may be dotted. -/
def sixthPieces? (s : List Char) : Option (List Nat) :=
  if s.isEmpty then some []
  else
    let parts := Text.splitAt ':' s
    let piece (p : List Char) : Option (List Nat) :=
      if p.isEmpty || 4 < p.length then none
      else (p.foldlM (fun n c => (hexDigit? c).map (16 * n + ·)) 0).map fun n => [n]
    let quad (p : List Char) : Option (List Nat) := do
      let numbers ← (Text.splitAt '.' p).mapM fun d =>
        if d.isEmpty || !d.all Char.isDigit || (1 < d.length && d.head? == some '0') then none
        else Text.index? d
      match numbers with
      | [a, b, c, d] =>
        if numbers.any (255 < ·) then none else some [256 * a + b, 256 * c + d]
      | _ => none
    let all := parts.zipIdx.mapM fun (p, i) =>
      if i + 1 = parts.length && p.contains '.' then quad p else piece p
    all.map List.flatten

/-- The two sides of the first double colon. -/
def splitGap : List Char → Option (List Char × List Char)
  | [] => none
  | ':' :: ':' :: rest => some ([], rest)
  | c :: cs => (splitGap cs).map fun (a, b) => (c :: a, b)

/-- The eight pieces of an address of the sixth version. -/
def sixth? (s : List Char) : Option (List Nat) :=
  match splitGap s with
  | none => (sixthPieces? s).bind fun ps => if ps.length = 8 then some ps else none
  | some (a, b) => do
    let left ← sixthPieces? a
    let right ← sixthPieces? b
    if 7 < left.length + right.length then none
    some (left ++ List.replicate (8 - left.length - right.length) 0 ++ right)

/-- The place and the length of the longest run of zeros, the first of several. -/
def longestGap : Nat → List Nat → Nat × Nat
  | _, [] => (0, 0)
  | i, p :: ps =>
    let run := ((p :: ps).takeWhile (· == 0)).length
    let (j, n) := longestGap (i + 1) ps
    if n ≤ run then (i, run) else (j, n)

def colons (ps : List Nat) : List Char :=
  [':'].intercalate (ps.map fun n => Nat.toDigits 16 n)

/-- The shortest form of an address of the sixth version. -/
def sixthText (ps : List Nat) : List Char :=
  let (i, n) := longestGap 0 ps
  if n < 2 then colons ps
  else colons (ps.take i) ++ [':', ':'] ++ colons (ps.drop (i + n))

/-- Characters that no name of a host has. -/
def isForbiddenInName (c : Char) : Bool :=
  c.toNat ≤ 0x20 || c.toNat = 0x7F || ("#/:<>?@[\\]^|%".toList).contains c

/-- The mark of a part of a name that is encoded in ASCII. -/
def encodedMark : List Char := "xn--".toList

def isAscii (s : List Char) : Bool := s.all fun c => c.toNat < 128

/-- What a part of a name means. A part with the mark must be the encoding of a part
that needs it. -/
def partMeaning? (part : List Char) : Option (List Char) :=
  if encodedMark.isPrefixOf part then do
    let meaning ← Punycode.decode? (part.drop encodedMark.length)
    if isAscii meaning || encodedMark.isPrefixOf meaning then none else some meaning
  else some part

def asciiPart (part : List Char) : List Char :=
  if isAscii part then part else encodedMark ++ Punycode.encode part

/-- A name in ASCII, unless it has parts that no name may have. -/
def asciiName? (name : List Char) : Option (List Char) := do
  let parts ← (Text.splitAt '.' (Text.composed (name.flatMap Text.commonForm))).mapM partMeaning?
  if !parts.all isFit then none
  if parts.any isLeftwardPart && !parts.all hasOneDirection then none
  some (['.'].intercalate (parts.map asciiPart))

/-- The host that a name in a web address stands for. -/
def webHost? (s : List Char) : Option (List Char) :=
  match s with
  | '[' :: rest =>
    if rest.getLast? = some ']' then
      (sixth? rest.dropLast).map fun ps => ['['] ++ sixthText ps ++ [']']
    else none
  | s => do
    let ascii ← asciiName? (Text.decodeLossy (unescape s))
    if ascii.isEmpty || ascii.any isForbiddenInName then none
    else if endsInNumber ascii then fourth? ascii
    else some ascii

/-- The host in an address of an unknown scheme. -/
def plainHost? (s : List Char) : Option (List Char) :=
  match s with
  | '[' :: rest =>
    if rest.getLast? = some ']' then
      (sixth? rest.dropLast).map fun ps => ['['] ++ sixthText ps ++ [']']
    else none
  | s =>
    if s.any fun c => ("#/:<>?@[\\]^| ".toList).contains c || c.toNat = 0 || c = '\t' || c = '\n'
      || c = '\r' then none
    else some (escape [] s)

end Workflow.Web
