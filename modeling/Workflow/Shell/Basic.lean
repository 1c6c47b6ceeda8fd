/-! Scripts of a shell: commands, and the words that they are made of. -/
namespace Workflow.Shell

/-- Where a redirected descriptor leads. -/
inductive Direction where
  | read
  | write
  | append
  /-- Both outputs into one file. -/
  | writeAll
  /-- To where another descriptor leads. -/
  | duplicate
  /-- From a text in the script, to which a line feed may be added. -/
  | supply (line : Bool)
  deriving DecidableEq, Repr

/-- What takes the place of a parameter whose value is wanting. -/
inductive Remedy where
  | use
  | assign
  /-- Used when the value is not wanting. -/
  | replace
  | complain
  deriving DecidableEq, Repr

mutual
/-- A part of a word. What stands in quotes is not split into fields. -/
inductive Piece where
  | plain (c : Char)
  | quoted (s : List Char)
  | parameter (name : String) (treatment : Treatment) (quoted : Bool)
  /-- The output of a script. -/
  | output (script : Command) (quoted : Bool)
  /-- The value of an arithmetic expression. -/
  | number (expression : List Piece) (quoted : Bool)
/-- What becomes of the value of a parameter. -/
inductive Treatment where
  | value
  | length
  | remedy (kind : Remedy) (emptyToo : Bool) (word : List Piece)
  /-- Drop what a pattern matches at the beginning or at the end. -/
  | trim (atEnd longest : Bool) (pattern : List Piece)
  /-- Characters from an offset on, as many as the length says. -/
  | slice (offset : List Piece) (length : Option (List Piece))
  /-- Put a text in the place of what a pattern matches, once or everywhere. -/
  | substitute (everywhere : Bool) (pattern replacement : List Piece)
  /-- Change the case of all letters, or of the first one. -/
  | recase (upper all : Bool)
inductive Redirection where
  | mk (descriptor : Nat) (direction : Direction) (word : List Piece)
inductive Command where
  | nothing
  /-- A call with the number of line feeds behind it in its script. -/
  | call (assignments : List (String × List Piece)) (words : List (List Piece))
      (redirections : List Redirection) (below : Nat)
  | define (name : String) (body : Command)
  | sequence (first second : Command)
  | both (first second : Command)
  | either (first second : Command)
  | negate (c : Command)
  | pipe (source sink : Command)
  /-- Run on the side; what it changes is lost. -/
  | side (c : Command)
  | redirect (c : Command) (redirections : List Redirection)
  | branch (condition yes no : Command)
  /-- Repeat as long as the condition has the given result. -/
  | repeatWhile (result : Bool) (condition body : Command)
  | forEach (name : String) (words : List (List Piece)) (body : Command)
  | count (first test next : List Piece) (body : Command)
  | choose (word : List Piece) (cases : List (List (List Piece) × Command))
  | calculate (expression : List Piece)
  /-- A condition in double brackets. -/
  | condition (words : List (List Piece))
end

/-- A word: parts that are written without blanks between them. -/
abbrev Word := List Piece

instance : Inhabited Command := ⟨.nothing⟩

/-- Why a script cannot be read. -/
inductive SyntaxFault where
  | unclosed (mark : Char)
  | unexpectedEnd
  | unexpected (token : String)
  deriving DecidableEq, Repr

end Workflow.Shell
