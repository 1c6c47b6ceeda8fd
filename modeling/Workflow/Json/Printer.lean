import Workflow.Json.Basic

/-! The compact and the indented text of JSON values. -/
namespace Workflow.Json

/-- One character inside a quoted text: marks, line ends and control characters are escaped. -/
def escapeChar (c : Char) : List Char :=
  match c with
  | '"' => ['\\', '"']
  | '\\' => ['\\', '\\']
  | '\n' => ['\\', 'n']
  | '\r' => ['\\', 'r']
  | '\t' => ['\\', 't']
  | '\x08' => ['\\', 'b']
  | '\x0c' => ['\\', 'f']
  | c =>
    if c.toNat < 32 then
      ['\\', 'u', '0', '0', Nat.digitChar (c.toNat / 16), Nat.digitChar (c.toNat % 16)]
    else [c]

def quoted (s : String) : List Char := '"' :: s.toList.flatMap escapeChar ++ ['"']

mutual
/-- The compact text: members in the order of their keys, and no white space. -/
def chars : Json → List Char
  | .null => ['n', 'u', 'l', 'l']
  | .bool true => ['t', 'r', 'u', 'e']
  | .bool false => ['f', 'a', 'l', 's', 'e']
  | .num n => n.text.toList
  | .str s => quoted s
  | .arr [] => ['[', ']']
  | .arr (x :: xs) => '[' :: chars x ++ itemsChars xs
  | .obj [] => ['\x7b', '\x7d']
  | .obj ((k, v) :: rest) => '\x7b' :: quoted k ++ ':' :: chars v ++ fieldsChars rest
/-- The items after the first, each behind a comma, and the closing bracket. -/
def itemsChars : List Json → List Char
  | [] => [']']
  | x :: xs => ',' :: chars x ++ itemsChars xs
/-- The members after the first, each behind a comma, and the closing brace. -/
def fieldsChars : List (String × Json) → List Char
  | [] => ['\x7d']
  | (k, v) :: rest => ',' :: quoted k ++ ':' :: chars v ++ fieldsChars rest
end

def text (j : Json) : String := String.ofList j.chars

/-- A line end with `n` steps of indentation after it. -/
def newline (n : Nat) : List Char := '\n' :: List.replicate (2 * n) ' '

mutual
/-- The indented text of a value that stands at depth `n`. -/
def prettyChars (n : Nat) : Json → List Char
  | .arr (x :: xs) =>
    '[' :: newline (n + 1) ++ prettyChars (n + 1) x ++ prettyItems n xs
  | .obj ((k, v) :: rest) =>
    '\x7b' :: newline (n + 1) ++ quoted k ++ [':', ' '] ++ prettyChars (n + 1) v
      ++ prettyFields n rest
  | .null => ['n', 'u', 'l', 'l']
  | .bool true => ['t', 'r', 'u', 'e']
  | .bool false => ['f', 'a', 'l', 's', 'e']
  | .num n => n.text.toList
  | .str s => quoted s
  | .arr [] => ['[', ']']
  | .obj [] => ['\x7b', '\x7d']
def prettyItems (n : Nat) : List Json → List Char
  | [] => newline n ++ [']']
  | x :: xs => ',' :: newline (n + 1) ++ prettyChars (n + 1) x ++ prettyItems n xs
def prettyFields (n : Nat) : List (String × Json) → List Char
  | [] => newline n ++ ['\x7d']
  | (k, v) :: rest =>
    ',' :: newline (n + 1) ++ quoted k ++ [':', ' '] ++ prettyChars (n + 1) v
      ++ prettyFields n rest
end

/-- The text with two spaces of indentation a level. -/
def pretty (j : Json) : String := String.ofList (j.prettyChars 0)

end Workflow.Json
