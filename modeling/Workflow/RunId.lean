/-! Ids of runs. -/
namespace Workflow.RunId

def hexDigit (n : Nat) : Char := (Nat.digitChar (n % 16))

def hexByte (b : UInt8) : List Char := [hexDigit (b.toNat / 16), hexDigit b.toNat]

/-- The byte at a place of an id: the seventh carries the version, the ninth the variant. -/
def stamp (place : Nat) (b : UInt8) : UInt8 :=
  if place = 6 then (b &&& 0x0f) ||| 0x40
  else if place = 8 then (b &&& 0x3f) ||| 0x80
  else b

/-- Whether a hyphen stands before the byte at a place. -/
def hyphenBefore (place : Nat) : Bool := place == 4 || place == 6 || place == 8 || place == 10

def charsFrom (place : Nat) : List UInt8 → List Char
  | [] => []
  | b :: bs =>
    (if hyphenBefore place then ['-'] else []) ++ hexByte (stamp place b)
      ++ charsFrom (place + 1) bs

/-- The id of version 4 of sixteen random bytes. -/
def ofBytes (bytes : List UInt8) : String := String.ofList (charsFrom 0 bytes)

end Workflow.RunId
