import Workflow.Toml.Parser

/-! Tables as text: first the plain values of a table, then the tables inside it, each under a
header of its own and behind a blank line. -/
namespace Workflow.Toml

open Json (Document)

/-- The greatest number of times that `c` stands in a row. -/
def longestRow (c : Char) (s : List Char) : Nat :=
  (s.foldl (fun (longest, row) d =>
    let row := if d = c then row + 1 else 0
    (max longest row, row)) (0, 0)).1

/-- Whether a character can only be written as an escape. -/
def needsEscape (c : Char) : Bool :=
  (c.toNat < 32 && c != '\t' && c != '\n') || c.toNat = 127

/-- A character between double quotes. -/
def escapeChar (c : Char) : List Char :=
  match c with
  | '"' => ['\\', '"']
  | '\\' => ['\\', '\\']
  | '\n' => ['\\', 'n']
  | '\t' => ['\\', 't']
  | '\r' => ['\\', 'r']
  | '\x08' => ['\\', 'b']
  | '\x0c' => ['\\', 'f']
  | c =>
    if needsEscape c then
      let digits := (Nat.toDigits 16 c.toNat).map Char.toUpper
      '\\' :: 'u' :: List.replicate (4 - digits.length) '0' ++ digits
    else [c]

/-- A character between triples of double quotes, where line feeds stand as they are. -/
def escapeInBlock (c : Char) : List Char := if c = '\n' then [c] else escapeChar c

def threeQuotes : List Char := ['"', '"', '"']
def threeApostrophes : List Char := ['\'', '\'', '\'']

/-- The characters of a block in which a third quote in a row is escaped, after `row` quotes. -/
def blockChars : Nat → List Char → List Char
  | _, [] => []
  | row, '"' :: s =>
    if row = 2 then '\\' :: '"' :: blockChars 0 s else '"' :: blockChars (row + 1) s
  | _, c :: s => escapeInBlock c ++ blockChars 0 s

/-- A text in the plainest quotes in which nothing has to be escaped, if there are any. -/
def quoteChars (s : List Char) : List Char :=
  let escapes := s.any needsEscape
  let backslashes := s.contains '\\'
  let feeds := s.contains '\n'
  let quotes := longestRow '"' s
  let apostrophes := longestRow '\'' s
  if !escapes && !backslashes && quotes = 0 && !feeds then
    '"' :: s.flatMap escapeChar ++ ['"']
  else if !escapes && apostrophes = 0 && !feeds then '\'' :: s ++ ['\'']
  else if !escapes && !backslashes && quotes ≤ 2 then
    threeQuotes ++ '\n' :: blockChars 0 s ++ threeQuotes
  else if !escapes && apostrophes ≤ 2 then threeApostrophes ++ '\n' :: s ++ threeApostrophes
  else if feeds then threeQuotes ++ '\n' :: blockChars 0 s ++ threeQuotes
  else '"' :: s.flatMap escapeChar ++ ['"']

def quote (s : String) : String := String.ofList (quoteChars s.toList)

/-- A key, in quotes only if it needs them. -/
def keyText (key : String) : String :=
  if !key.isEmpty && key.toList.all isBareKeyChar then key else quote key

def pathText (path : List String) : String := ".".intercalate (path.map keyText)

/-- Reals are written without an exponent. -/
def realLayout : Decimal.Layout := ⟨-400, 400, false⟩

def numberText : Number → String
  | .int n => toString n
  | .real x =>
    if x.overflows .double then if x.negative then "-inf" else "inf"
    else x.render .double realLayout

/-- The items of a list between its brackets: each on a line of its own if there are several. -/
def listText : List String → String
  | [] => "[]"
  | [item] => "[" ++ item ++ "]"
  | items => "[" ++ String.join (items.map ("\n    " ++ · ++ ",")) ++ "\n]"

mutual
/-- The text of a value; nothing stands for null. -/
def valueText? : Document → Option String
  | .bool b => some (if b then "true" else "false")
  | .num n => some (numberText n)
  | .str s => some (quote s)
  | .arr items => some (listText (itemTexts items))
  | .obj fields => some ("\x7b " ++ ", ".intercalate (fieldTexts fields) ++ " \x7d")
  | .null => none
def itemTexts : List Document → List String
  | [] => []
  | d :: rest => (valueText? d).toList ++ itemTexts rest
def fieldTexts : List (String × Document) → List String
  | [] => []
  | (k, d) :: rest => ((valueText? d).map (keyText k ++ " = " ++ ·)).toList ++ fieldTexts rest
end

/-- The lines of the plain values of a table. -/
def Table.valueLines (t : Table) : List String :=
  t.filterMap fun (k, e) => match e with
    | .value doc => (valueText? doc).map (keyText k ++ " = " ++ ·)
    | _ => none

mutual
/-- The sections of the tables under a path, as lists of lines. A table that only holds others
has no section. -/
def Entry.sections (path : List String) : Entry → List (List String)
  | .value _ => []
  | .table _ _ entries =>
    let own := Table.valueLines entries
    let inner := entrySections path entries
    if own.isEmpty && !entries.isEmpty then inner
    else (("[" ++ pathText path ++ "]") :: own) :: inner
  | .tables all => tableSections path all []
def entrySections (path : List String) : List (String × Entry) → List (List String)
  | [] => []
  | (k, e) :: rest => e.sections (path ++ [k]) ++ entrySections path rest
def tableSections (path : List String) : List (List (String × Entry)) → List (List String) →
    List (List String)
  | [], later => later
  | t :: rest, later =>
    tableSections path rest
      ((("[[" ++ pathText path ++ "]]") :: Table.valueLines t) :: entrySections path t ++ later)
end

/-- The text of a table, with a line end behind each line. -/
def Table.text (t : Table) : String :=
  let own := t.valueLines
  let inner := entrySections [] t
  let sections := if own.isEmpty then inner else own :: inner
  "\n".intercalate (sections.map fun lines => String.join (lines.map (· ++ "\n")))

end Workflow.Toml
