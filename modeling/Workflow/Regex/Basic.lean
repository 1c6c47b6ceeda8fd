import Workflow.Text.CharSet

/-! Regular expressions with groups that are remembered. -/
namespace Workflow

open Text (CharSet)

/-- A place in a text, told by the characters on both sides of it. -/
inductive Regex.Look where
  | start
  | finish
  | lineStart
  | lineEnd
  /-- Like `lineStart`, where a carriage return ends a line as well. -/
  | lineStartAny
  | lineEndAny
  /-- A border of a word. Characters of words are those of `set`. -/
  | border (set : CharSet)
  | noBorder (set : CharSet)
  | wordStart (set : CharSet)
  | wordEnd (set : CharSet)
  | notAfterWord (set : CharSet)
  | notBeforeWord (set : CharSet)
  deriving DecidableEq, Repr

inductive Regex where
  | empty
  /-- One character of the set. -/
  | one (set : CharSet)
  | look (l : Regex.Look)
  | seq (a b : Regex)
  /-- One of two; the first one is preferred. -/
  | alt (a b : Regex)
  /-- Between `least` and `most` repetitions, as many as can be if `greedy`, and else as few. -/
  | rep (a : Regex) (least : Nat) (most : Option Nat) (greedy : Bool)
  | group (index : Nat) (a : Regex)
  deriving DecidableEq, Repr, Inhabited

namespace Regex

/-- Whether the condition holds between two characters, which are missing at the ends. -/
def Look.holds (before after : Option Char) : Look → Bool
  | start => before.isNone
  | finish => after.isNone
  | lineStart => before.isNone || before == some '\n'
  | lineEnd => after.isNone || after == some '\n'
  | lineStartAny =>
    before.isNone || before == some '\n' || (before == some '\r' && after != some '\n')
  | lineEndAny => after.isNone || after == some '\r' || (after == some '\n' && before != some '\r')
  | border set => inWord set before != inWord set after
  | noBorder set => inWord set before == inWord set after
  | wordStart set => !inWord set before && inWord set after
  | wordEnd set => inWord set before && !inWord set after
  | notAfterWord set => !inWord set before
  | notBeforeWord set => !inWord set after
where
  inWord (set : CharSet) (c : Option Char) : Bool := c.any set.mem

def ofList : List Regex → Regex
  | [] => empty
  | [r] => r
  | r :: rs => seq r (ofList rs)

/-- Whether the empty text may match. -/
def isNullable : Regex → Bool
  | empty => true
  | one set => set.bounds.isEmpty
  | look _ => true
  | seq a b => a.isNullable && b.isNullable
  | alt a b => a.isNullable || b.isNullable
  | rep a least _ _ => least == 0 || a.isNullable
  | group _ a => a.isNullable

/-- Whether only the empty text may match. -/
def isPlace : Regex → Bool
  | empty => true
  | one _ => false
  | look _ => true
  | seq a b => a.isPlace && b.isPlace
  | alt a b => a.isPlace && b.isPlace
  | rep a _ most _ => most == some 0 || a.isPlace
  | group _ a => a.isPlace

end Regex

/-- A regular expression that is ready for use: with its number of groups and their names. -/
structure Pattern where
  regex : Regex
  groups : Nat
  names : List (String × Nat)
  deriving DecidableEq, Repr

end Workflow
