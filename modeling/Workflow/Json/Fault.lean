/-! Where and why a text stops being JSON. -/
namespace Workflow.Json

inductive SyntaxError where
  | endInValue
  | endInString
  | endInList
  | endInObject
  | noValue
  | badIdent
  | noColon
  | noCommaInList
  | noCommaInObject
  | badKey
  | trailingComma
  | trailingCharacters
  | badNumber
  | numberRange
  | badEscape
  | endOfEscape
  | loneSurrogate
  | controlCharacter
  | tooDeep
  deriving DecidableEq, Repr

namespace SyntaxError

def message : SyntaxError → String
  | endInValue => "EOF while parsing a value"
  | endInString => "EOF while parsing a string"
  | endInList => "EOF while parsing a list"
  | endInObject => "EOF while parsing an object"
  | noValue => "expected value"
  | badIdent => "expected ident"
  | noColon => "expected `:`"
  | noCommaInList => "expected `,` or `]`"
  | noCommaInObject => "expected `,` or `\x7d`"
  | badKey => "key must be a string"
  | trailingComma => "trailing comma"
  | trailingCharacters => "trailing characters"
  | badNumber => "invalid number"
  | numberRange => "number out of range"
  | badEscape => "invalid escape"
  | endOfEscape => "unexpected end of hex escape"
  | loneSurrogate => "lone leading surrogate in hex escape"
  | controlCharacter => "control character (\\u0000-\\u001F) found while parsing a string"
  | tooDeep => "recursion limit exceeded"

end SyntaxError

/-- An error with the number of bytes from its place to the end of the text. -/
structure Fault where
  error : SyntaxError
  left : Nat
  deriving DecidableEq, Repr

/-- The number of bytes of a text. -/
def byteLength (s : List Char) : Nat := s.foldl (fun n c => n + c.utf8Size) 0

/-- The lines that end in the first `n` bytes of a text, and the bytes behind the last
end of a line. -/
def lineAndColumn : Nat → List Char → Nat × Nat → Nat × Nat
  | _, [], place => place
  | n, c :: s, (line, column) =>
    if c.utf8Size ≤ n then
      lineAndColumn (n - c.utf8Size) s
        (if c = '\n' then (line + 1, 0) else (line, column + c.utf8Size))
    else (line, column + n)

namespace Fault

/-- The fault before the rest of a text. -/
def before (error : SyntaxError) (rest : List Char) : Fault := ⟨error, byteLength rest⟩

/-- The fault behind the first byte of the rest of a text, if there is one. -/
def behind (error : SyntaxError) (rest : List Char) : Fault := ⟨error, byteLength rest - 1⟩

/-- Line and column of the fault in its text, both from one on, the column in bytes. -/
def position (text : List Char) (fault : Fault) : Nat × Nat :=
  let (line, column) := lineAndColumn (byteLength text - fault.left) text (0, 0)
  (line + 1, column)

/-- The message with the position in `text`. -/
def describe (text : List Char) (fault : Fault) : String :=
  let (line, column) := fault.position text
  fault.error.message ++ " at line " ++ toString line ++ " column " ++ toString column

end Fault
end Workflow.Json
