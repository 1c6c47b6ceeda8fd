/-! Reading UTF-8, and lengths and cuts of texts counted in the bytes of their encoding. -/
namespace Workflow.Text

/-- What a first byte calls for: the number of bytes behind it, the range of the first of them, and
the bits that the byte itself contributes. -/
structure Lead where
  count : Nat
  least : Nat
  greatest : Nat
  bits : Nat
  deriving DecidableEq, Repr

/-- First bytes of characters. The ranges keep out overlong forms, surrogates, and numbers beyond
the last character. -/
def lead? (b : Nat) : Option Lead :=
  if b < 0x80 then some ⟨0, 0, 0, b⟩
  else if b < 0xC2 then none
  else if b < 0xE0 then some ⟨1, 0x80, 0xBF, b - 0xC0⟩
  else if b = 0xE0 then some ⟨2, 0xA0, 0xBF, 0⟩
  else if b = 0xED then some ⟨2, 0x80, 0x9F, 0xD⟩
  else if b < 0xF0 then some ⟨2, 0x80, 0xBF, b - 0xE0⟩
  else if b = 0xF0 then some ⟨3, 0x90, 0xBF, 0⟩
  else if b < 0xF4 then some ⟨3, 0x80, 0xBF, b - 0xF0⟩
  else if b = 0xF4 then some ⟨3, 0x80, 0x8F, 4⟩
  else none

/-- What stands at the beginning of a run of bytes. -/
inductive Glyph where
  | char (c : Char) (rest : List UInt8)
  /-- Bytes that no character starts with. -/
  | malformed (rest : List UInt8)
  /-- A character whose last bytes are missing. -/
  | unfinished
  deriving DecidableEq, Repr

/-- The bytes behind a first byte. -/
def readTail : Nat → Nat → Nat → Nat → List UInt8 → Glyph
  | 0, _, _, code, rest => .char (Char.ofNat code) rest
  | _ + 1, _, _, _, [] => .unfinished
  | count + 1, least, greatest, code, b :: rest =>
    let n := b.toNat
    if least ≤ n && n ≤ greatest then readTail count 0x80 0xBF (64 * code + (n - 0x80)) rest
    else .malformed (b :: rest)

def readGlyph (b : UInt8) (rest : List UInt8) : Glyph :=
  match lead? b.toNat with
  | none => .malformed rest
  | some l => readTail l.count l.least l.greatest l.bits rest

/-- The characters up to the first byte that belongs to no whole character, and the bytes from
there on. The fuel is the number of bytes. -/
def decodeWhole : Nat → List UInt8 → List Char × List UInt8
  | 0, bytes => ([], bytes)
  | _ + 1, [] => ([], [])
  | fuel + 1, b :: bs => match readGlyph b bs with
    | .char c rest =>
      let (cs, left) := decodeWhole fuel rest
      (c :: cs, left)
    | _ => ([], b :: bs)

def validPrefix (bytes : List UInt8) : List Char × List UInt8 := decodeWhole bytes.length bytes

/-- What stands for bytes that are no character. -/
def replacement : Char := '\ufffd'

def decodeAny : Nat → List UInt8 → List Char
  | 0, _ => []
  | _ + 1, [] => []
  | fuel + 1, b :: bs => match readGlyph b bs with
    | .char c rest => c :: decodeAny fuel rest
    | .malformed rest => replacement :: decodeAny fuel rest
    | .unfinished => [replacement]

/-- The text of any bytes: each longest run that begins like a character but is none is replaced. -/
def decodeLossy (bytes : List UInt8) : List Char := decodeAny bytes.length bytes

/-! ### Lengths and cuts -/

/-- The number of bytes of a text. -/
def byteLength (s : List Char) : Nat := (s.map Char.utf8Size).foldr (· + ·) 0

/-- Whether the first `n` bytes of a text are whole characters. -/
def isBoundary : List Char → Nat → Bool
  | _, 0 => true
  | [], _ + 1 => false
  | c :: cs, n + 1 => c.utf8Size ≤ n + 1 && isBoundary cs (n + 1 - c.utf8Size)

/-- The last boundary up to `n`, found by going back from there. -/
def lastBoundary (s : List Char) : Nat → Nat
  | 0 => 0
  | n + 1 => if isBoundary s (n + 1) then n + 1 else lastBoundary s n

/-- The characters that lie in the first `n` bytes. -/
def takeBytes : List Char → Nat → List Char
  | [], _ => []
  | c :: cs, n => if c.utf8Size ≤ n then c :: takeBytes cs (n - c.utf8Size) else []

/-- The text if it has at most `limit` bytes, else its beginning up to the last boundary there. -/
def truncate (limit : Nat) (s : List Char) : List Char :=
  if byteLength s ≤ limit then s
  else takeBytes s (lastBoundary s limit) ++ ['.', '.', '.']

end Workflow.Text
