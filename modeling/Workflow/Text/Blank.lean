import Workflow.Text.CharSet

/-! White space, and trimming it from the ends of a text. -/
namespace Workflow.Text

/-- The characters with the property White_Space. -/
def blanks : CharSet := ⟨[
  9, 14, 32, 33, 133, 134, 160, 161, 5760, 5761, 8192, 8203, 8232, 8234, 8239, 8240, 8287, 8288,
  12288, 12289]⟩

def isBlank (c : Char) : Bool := blanks.mem c

def trimStart (s : List Char) : List Char := s.dropWhile isBlank

def trimEnd (s : List Char) : List Char := (s.reverse.dropWhile isBlank).reverse

/-- The text without the white space at its ends. -/
def trim (s : List Char) : List Char := trimEnd (trimStart s)

end Workflow.Text
