import Workflow.Text.Property

/-! Quoted texts: marks and line ends by an escape, invisible characters by their number. What is
visible is told by version 17 of the Unicode standard. -/
namespace Workflow.Text

open CharSet

/-- Characters that are new in that version. -/
def newcomers : CharSet := ofRanges "
  88F C5C CDC 1ACF-1ADD 1AE0-1AEB 20C1 2B96 A7CE-A7CF A7D2 A7D4 A7F1 FBC3-FBD2 FD90-FD91 FDC8-FDCE
  10940-10959 10EC5-10EC7 10ED0-10ED8 10EFA-10EFB 11B60-11B67 11DB0-11DDB 11DE0-11DE9 16EA0-16EB8
  16EBB-16ED3 16FF2-16FF6 187F8-187FF 18D09-18D1E 18D80-18DF2 1CCFA-1CCFC 1CEBA-1CED0 1CEE0-1CEF0
  1E6C0-1E6DE 1E6E0-1E6F5 1E6FE-1E6FF 1F6D8 1F777-1F77A 1F8D0-1F8D8 1FA54-1FA57 1FA8A 1FA8E 1FAC8
  1FACD 1FAEA 1FAEF 1FBFA 2B73A-2B73F 2CEA2-2CEAD 323B0-33479"

/-- Characters that are new in that version and extend the one before them. -/
def newExtending : CharSet := ofRanges "
  1ACF-1ADD 1AE0-1AEB 10EFA-10EFB 11B60 11B62-11B64 11B66 1E6E3 1E6E6 1E6EE-1E6EF 1E6F5"

/-- Controls, formats, separators, and code points for private use or without meaning. -/
def unprintable : CharSet :=
  (Category.union (Category.others ++ Category.separators)).diff newcomers

/-- The characters that extend the one before them. -/
def extending : CharSet := Property.graphemeExtend.union newExtending

/-- What leaves no ink of its own. -/
def hidden : CharSet := all [unprintable, extending, Property.otherDefaultIgnorable]

/-- Whether a quoted text shows the character as it is. -/
def isVisible (c : Char) : Bool :=
  if c.toNat < 128 then 32 ≤ c.toNat && c.toNat < 127 else !hidden.mem c

/-- One character inside double quotes. -/
def quoteChar (c : Char) : List Char :=
  match c with
  | '"' => ['\\', '"']
  | '\\' => ['\\', '\\']
  | '\n' => ['\\', 'n']
  | '\r' => ['\\', 'r']
  | '\t' => ['\\', 't']
  | '\x00' => ['\\', '0']
  | c =>
    if isVisible c then [c]
    else '\\' :: 'u' :: '\x7b' :: Nat.toDigits 16 c.toNat ++ ['\x7d']

/-- The text in double quotes. -/
def quote (s : String) : String :=
  String.ofList ('"' :: s.toList.flatMap quoteChar ++ ['"'])

end Workflow.Text
