import Workflow.Text.Property

/-! Letters and numbers of every script, by version 17 of the Unicode standard. -/
namespace Workflow.Text

open CharSet

/-- Letters that are new in that version. -/
def newLetters : CharSet := ofRanges "
  88F C5C CDC A7CE-A7CF A7D2 A7D4 A7F1 10940-10959 10EC5-10EC7 10EFA-10EFB 11B60-11B67 11DB0-11DDB
  16EA0-16EB8 16EBB-16ED3 16FF2-16FF6 187F8-187FF 18D09-18D1E 18D80-18DF2 1E6C0-1E6DE 1E6E0-1E6F5
  1E6FE-1E6FF 2B73A-2B73F 2CEA2-2CEAD 323B0-33479"

/-- Numbers that are new in that version. -/
def newNumbers : CharSet := ofRanges "11DE0-11DE9 16FF4-16FF6"

/-- The characters with the property Alphabetic. -/
def allLetters : CharSet := Property.alphabetic.union newLetters

/-- The characters of the general categories of numbers. -/
def allNumbers : CharSet := (Category.union Category.numbers).union newNumbers

def isLetter (c : Char) : Bool := if c.toNat < 128 then c.isAlpha else allLetters.mem c

def isLetterOrNumber (c : Char) : Bool :=
  if c.toNat < 128 then c.isAlphanum else allLetters.mem c || allNumbers.mem c

end Workflow.Text
