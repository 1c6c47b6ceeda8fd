import Workflow.Text.Encoding

/-! Bytes written as texts: percent-encoding, and sixty-four signs. -/
namespace Workflow.Web

/-- The bytes of a character. -/
def utf8Bytes (c : Char) : List UInt8 := (String.ofList [c]).toUTF8.toList

def hexUpper (n : Nat) : Char := (Nat.digitChar (n % 16)).toUpper

def escapeByte (b : UInt8) : List Char := ['%', hexUpper (b.toNat / 16), hexUpper b.toNat]

/-- The text with characters beyond ASCII, control characters and those of `marks` escaped. -/
def escape (marks : List Char) (s : List Char) : List Char :=
  s.flatMap fun c =>
    if c.toNat < 0x20 || 0x7E < c.toNat || marks.contains c then (utf8Bytes c).flatMap escapeByte
    else [c]

def hexDigit? (c : Char) : Option Nat :=
  if c.isDigit then some (c.toNat - 48)
  else if 'a' ≤ c && c ≤ 'f' then some (c.toNat - 87)
  else if 'A' ≤ c && c ≤ 'F' then some (c.toNat - 55)
  else none

/-- The bytes of a text with its escapes undone. -/
def unescape : List Char → List UInt8
  | [] => []
  | '%' :: a :: b :: rest => match hexDigit? a, hexDigit? b with
    | some x, some y => (16 * x + y).toUInt8 :: unescape rest
    | _, _ => 37 :: unescape (a :: b :: rest)
  | c :: rest => utf8Bytes c ++ unescape rest

namespace Base64

/-- The sign of a number below sixty-four. -/
def sign (n : Nat) : Char :=
  if n < 26 then Char.ofNat (65 + n)
  else if n < 52 then Char.ofNat (71 + n)
  else if n < 62 then Char.ofNat (n - 4)
  else if n = 62 then '+'
  else '/'

/-- Three bytes become four signs; what is missing at the end is filled up. -/
def encode : List UInt8 → List Char
  | [] => []
  | [a] =>
    let n := 16 * a.toNat
    [sign (n / 64), sign (n % 64), '=', '=']
  | [a, b] =>
    let n := 4 * (256 * a.toNat + b.toNat)
    [sign (n / 4096), sign (n / 64 % 64), sign (n % 64), '=']
  | a :: b :: c :: rest =>
    let n := 65536 * a.toNat + 256 * b.toNat + c.toNat
    sign (n / 262144) :: sign (n / 4096 % 64) :: sign (n / 64 % 64) :: sign (n % 64)
      :: encode rest

end Base64
end Workflow.Web
