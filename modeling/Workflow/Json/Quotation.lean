import Workflow.Json.Fault

/-! The quoted texts of JSON: reading them, and passing over them. -/
namespace Workflow.Json.Quotation

def hexValue? (c : Char) : Option Nat :=
  if '0' ≤ c ∧ c ≤ '9' then some (c.toNat - 48)
  else if 'a' ≤ c ∧ c ≤ 'f' then some (c.toNat - 87)
  else if 'A' ≤ c ∧ c ≤ 'F' then some (c.toNat - 55)
  else none

/-- The unit that four hexadecimal digits denote. -/
def unit? (a b c d : Char) : Option Nat := do
  return ((← hexValue? a) * 16 + (← hexValue? b)) * 256 + (← hexValue? c) * 16 + (← hexValue? d)

/-- The character of a simple escape. -/
def simpleEscape? : Char → Option Char
  | '"' => some '"'
  | '\\' => some '\\'
  | '/' => some '/'
  | 'b' => some '\x08'
  | 'f' => some '\x0c'
  | 'n' => some '\n'
  | 'r' => some '\r'
  | 't' => some '\t'
  | _ => none

/-- Four hexadecimal digits at the front of a text. The next four bytes are taken for them. -/
def unitAt (s : List Char) : Except Fault (Nat × List Char) :=
  let digits? : Option (Nat × List Char) := match s with
    | a :: b :: c :: d :: r => (unit? a b c d).map fun n => (n, r)
    | _ => none
  match digits? with
  | some found => .ok found
  | none =>
    if byteLength s < 4 then .error (.before .endInString [])
    else .error ⟨.badEscape, byteLength s - 4⟩

def isLowSurrogate (n : Nat) : Bool := 0xDC00 ≤ n && n ≤ 0xDFFF
def isHighSurrogate (n : Nat) : Bool := 0xD800 ≤ n && n ≤ 0xDBFF

/-- The character of a Unicode escape whose digits start `s`: a high surrogate must be followed by
an escape of a low one. -/
def unicode (s : List Char) : Except Fault (Char × List Char) := do
  let (n, r) ← unitAt s
  if isLowSurrogate n then throw (.before .loneSurrogate r)
  if !isHighSurrogate n then return (Char.ofNat n, r)
  match r with
  | [] | ['\\'] => throw (.before .endInString [])
  | '\\' :: 'u' :: t =>
    let (m, t) ← unitAt t
    if isLowSurrogate m then
      return (Char.ofNat ((n - 0xD800) * 1024 + (m - 0xDC00) + 0x10000), t)
    else throw (.before .loneSurrogate t)
  | '\\' :: t => throw (.behind .endOfEscape t)
  | t => throw (.behind .endOfEscape t)

/-- Read up to the closing quote, with the characters so far in reverse. The fuel is the length of
the text. -/
def readFrom : Nat → List Char → List Char → Except Fault (String × List Char)
  | 0, _, _ => .error (.behind .endInString [])
  | fuel + 1, s, acc => match s with
    | [] | ['\\'] => .error (.behind .endInString [])
    | '"' :: r => .ok (String.ofList acc.reverse, r)
    | '\\' :: 'u' :: t => do
      let (c, rest) ← unicode t
      readFrom fuel rest (c :: acc)
    | '\\' :: c :: t => match simpleEscape? c with
      | some e => readFrom fuel t (e :: acc)
      | none => .error (.behind .badEscape (c :: t))
    | c :: r =>
      if c.toNat < 32 then .error (.behind .controlCharacter s)
      else readFrom fuel r (c :: acc)

/-- Read a text from behind its opening quote. -/
def read (s : List Char) : Except Fault (String × List Char) := readFrom (s.length + 1) s []

/-- Pass over a text up to its closing quote. Surrogates may stand alone. -/
def skipFrom : Nat → List Char → Except Fault (List Char)
  | 0, _ => .error (.behind .endInString [])
  | fuel + 1, s => match s with
    | [] | ['\\'] => .error (.behind .endInString [])
    | '"' :: r => .ok r
    | '\\' :: 'u' :: t => do
      let (_, rest) ← unitAt t
      skipFrom fuel rest
    | '\\' :: c :: t =>
      if (simpleEscape? c).isSome then skipFrom fuel t else .error (.behind .badEscape (c :: t))
    | c :: r =>
      if c.toNat < 32 then .error (.behind .controlCharacter s) else skipFrom fuel r

/-- Pass over a text from behind its opening quote. -/
def skip (s : List Char) : Except Fault (List Char) := skipFrom (s.length + 1) s

end Workflow.Json.Quotation
