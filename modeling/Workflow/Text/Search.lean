/-! Finding and replacing parts of a text. -/
namespace Workflow.Text

/-- Whether `needle` stands somewhere in a text. -/
def occursIn (needle : List Char) : List Char → Bool
  | [] => needle.isEmpty
  | c :: cs => needle.isPrefixOf (c :: cs) || occursIn needle cs

/-- The rest of a text behind a part that it starts with. -/
def dropLead? : List Char → List Char → Option (List Char)
  | [], s => some s
  | _ :: _, [] => none
  | p :: ps, c :: cs => if p = c then dropLead? ps cs else none

/-- The parts of a text between the places where `sep` stands. -/
def splitAt (sep : Char) : List Char → List (List Char)
  | [] => [[]]
  | c :: cs =>
    if c = sep then [] :: splitAt sep cs
    else match splitAt sep cs with
      | [] => [[c]]
      | part :: parts => (c :: part) :: parts

/-- A line without the carriage return at its end. -/
def dropReturn (line : List Char) : List Char :=
  match line.reverse with
  | '\r' :: r => r.reverse
  | _ => line

/-- The lines of a text: each ends with a line feed or with the text, a carriage return before the
line feed belongs to the line end, and nothing follows the last line feed. -/
def lines (s : List Char) : List (List Char) :=
  let parts := splitAt '\n' s
  let last := parts.getLast?.getD []
  let closed := parts.dropLast.map dropReturn
  if last.isEmpty then closed else closed ++ [last]

/-- The text with every occurrence of a nonempty `old` replaced, from left to right; `skip` counts
the characters that belong to the occurrence just replaced. -/
def replaceFrom (old new : List Char) : Nat → List Char → List Char
  | _, [] => []
  | skip + 1, _ :: cs => replaceFrom old new skip cs
  | 0, c :: cs =>
    if old.isPrefixOf (c :: cs) then new ++ replaceFrom old new (old.length - 1) cs
    else c :: replaceFrom old new 0 cs

def replace (old new s : List Char) : List Char := replaceFrom old new 0 s

/-- An index: digits with at most a plus sign before them. -/
def index? (s : List Char) : Option Nat :=
  let digits := match s with
    | '+' :: r => r
    | r => r
  if digits.isEmpty || !digits.all Char.isDigit then none
  else some (digits.foldl (fun n c => 10 * n + (c.toNat - 48)) 0)

/-! ### Replacing what a rule finds from left to right -/

/-- A rule tells whether a part to be replaced stands at the beginning of a text: how many
characters it has, at least one, and what takes its place. -/
abbrev Rule := List Char → Option (Nat × List Char)

/-- The text with parts replaced; `skip` counts the characters that belong to the part just
replaced. -/
def substituteFrom (rule : Rule) : Nat → List Char → List Char
  | _, [] => []
  | skip + 1, _ :: cs => substituteFrom rule skip cs
  | 0, c :: cs => match rule (c :: cs) with
    | some (n, new) => new ++ substituteFrom rule (n - 1) cs
    | none => c :: substituteFrom rule 0 cs

def substitute (rule : Rule) (s : List Char) : List Char := substituteFrom rule 0 s

end Workflow.Text
