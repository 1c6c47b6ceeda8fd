import Workflow.Json.Access
import Workflow.Json.Printer
import Workflow.Text.Blank

/-! Templates: texts with placeholders that are filled from named values. -/
namespace Workflow.Template

/-- The characters that may start the name in a placeholder. -/
def startsName (c : Char) : Bool := c.isAlphanum || c == '_' || c == '$'

def isNameChar (c : Char) : Bool := startsName c || c == '.' || c == '-'

/-- The name of the placeholder that a text starts with, and the rest of the text. -/
def placeholder? : List Char → Option (List Char × List Char)
  | '\x7b' :: '\x7b' :: s =>
    let s := s.dropWhile Text.isBlank
    match s with
    | [] => none
    | c :: _ =>
      if startsName c then
        match (s.dropWhile isNameChar).dropWhile Text.isBlank with
        | '\x7d' :: '\x7d' :: rest => some (s.takeWhile isNameChar, rest)
        | _ => none
      else none
  | _ => none

inductive Piece where
  | char (c : Char)
  | hole (name : List Char)
  deriving DecidableEq, Repr

/-- The pieces of a text, placeholders being taken from left to right without overlap. The fuel is
the length of the text. -/
def piecesFrom : Nat → List Char → List Piece
  | _, [] => []
  | 0, _ => []
  | fuel + 1, c :: s => match placeholder? (c :: s) with
    | some (name, rest) => .hole name :: piecesFrom fuel rest
    | none => .char c :: piecesFrom fuel s

def pieces (template : String) : List Piece :=
  piecesFrom template.toList.length template.toList

def Piece.isHole : Piece → Bool
  | hole _ => true
  | char _ => false

def hasPlaceholders (template : String) : Bool := (pieces template).any Piece.isHole

/-- How a value reads inside a text: texts as they are, null as nothing, others as JSON. -/
def valueChars : Json → List Char
  | .str s => s.toList
  | .null => []
  | v => v.chars

/-- The text that stands for a piece; a name that leads nowhere stands for nothing. -/
def fill (input : Fields) : Piece → List Char
  | .char c => [c]
  | .hole name => valueChars (Json.ofOption (input.lookup? (String.ofList name)))

/-- Every placeholder replaced by its value, once. -/
def render (template : String) (input : Fields) : String :=
  String.ofList ((pieces template).flatMap (fill input))

/-- The value that takes the place of a text in a structured template: the value itself when the
text is one placeholder that resolves, else the rendered text. -/
def renderLeaf (s : String) (input : Fields) : Json :=
  match placeholder? (Text.trim s.toList) with
  | some (name, []) => match input.lookup? (String.ofList name) with
    | some v => v
    | none => .str (render s input)
  | _ => .str (render s input)

mutual
/-- Every text inside a value rendered. -/
def renderValue (input : Fields) : Json → Json
  | .str s => renderLeaf s input
  | .arr xs => .arr (renderItems input xs)
  | .obj fields => .obj (renderFields input fields)
  | .null => .null
  | .bool b => .bool b
  | .num n => .num n
def renderItems (input : Fields) : List Json → List Json
  | [] => []
  | x :: xs => renderValue input x :: renderItems input xs
def renderFields (input : Fields) : List (String × Json) → List (String × Json)
  | [] => []
  | (k, v) :: rest => (k, renderValue input v) :: renderFields input rest
end

/-- The section of a prompt that shows the value under one key. -/
def contextSection (input : Fields) (key : String) : String :=
  let value := match input.get? key with
    | some (.str s) => s
    | some v => v.pretty
    | none => "null"
  "### " ++ key ++ "\n" ++ value ++ "\n\n"

/-- The prompt of a template. Values that no placeholder mentions are put before it. -/
def buildPrompt (template : String) (usage : List String) (input : Fields) : String :=
  if hasPlaceholders template || usage.isEmpty then render template input
  else "## Context Data\n\n" ++ String.join (usage.map (contextSection input))
    ++ "## Task\n\n" ++ template

end Workflow.Template
