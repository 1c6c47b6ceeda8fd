import Workflow.Text.Blank
import Workflow.Text.Search

/-! The plain text of a page of markup, and plain text written as markup. -/
namespace Workflow.Web.Markup

open Text (Rule)

/-- Whether a character is a small letter in either case. The long s counts as an s. -/
def isLetter (small c : Char) : Bool := c.toLower == small || (small == 's' && c == '\u017f')

/-- What follows a word at the beginning of a text, in whatever case it is written. -/
def dropWord? : List Char → List Char → Option (List Char)
  | [], s => some s
  | _ :: _, [] => none
  | w :: ws, c :: cs => if isLetter w c then dropWord? ws cs else none

/-- What follows the first closing tag of an element. -/
def dropThrough? (closing : List Char) : List Char → Option (List Char)
  | [] => none
  | c :: cs => match dropWord? closing (c :: cs) with
    | some rest => some rest
    | none => dropThrough? closing cs

/-- An element with all that it contains. -/
def element (name : List Char) : Rule := fun s => do
  let attributes ← dropWord? ('<' :: name) s
  match attributes.dropWhile (· != '>') with
  | [] => none
  | _ :: content =>
    let rest ← dropThrough? ('<' :: '/' :: name ++ ['>']) content
    return (s.length - rest.length, [])

/-- A tag: something between angle brackets. -/
def tag : Rule
  | '<' :: s =>
    let body := s.takeWhile (· != '>')
    if body.isEmpty || body.length = s.length then none else some (body.length + 2, [])
  | _ => none

/-- Three or more line feeds, of which two are left. -/
def emptyLines : Rule := fun s =>
  let n := (s.takeWhile (· == '\n')).length
  if 3 ≤ n then some (n, ['\n', '\n']) else none

/-- Names of characters, each with what it stands for, in the order in which they are replaced. The
mark that names begin with comes last, so that nothing is replaced twice. -/
def entities : List (List Char × List Char) := [
  ("&lt;".toList, ['<']), ("&gt;".toList, ['>']), ("&quot;".toList, ['"']),
  ("&apos;".toList, ['\'']), ("&#39;".toList, ['\'']), ("&nbsp;".toList, [' ']),
  ("&amp;".toList, ['&'])]

def readEntities (s : List Char) : List Char :=
  entities.foldl (fun s (name, value) => Text.replace name value s) s

/-- At most one empty line in a row, and no white space at the ends. -/
def tidy (s : List Char) : List Char := Text.trim (Text.substitute emptyLines s)

/-- The plain text of a page: without scripts, styles and tags. -/
def plainText (page : List Char) : List Char :=
  let s := Text.substitute (element "script".toList) page
  let s := Text.substitute (element "style".toList) s
  let s := Text.substitute tag s
  tidy (readEntities s)

/-- A character as markup. -/
def escapeChar : Char → List Char
  | '&' => "&amp;".toList
  | '<' => "&lt;".toList
  | '>' => "&gt;".toList
  | '"' => "&quot;".toList
  | '\'' => "&#39;".toList
  | c => [c]

/-- Plain text as markup. -/
def escape (s : List Char) : List Char := s.flatMap escapeChar

end Workflow.Web.Markup
