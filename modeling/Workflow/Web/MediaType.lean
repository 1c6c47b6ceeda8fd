import Workflow.Web.Request

/-! Media types, as header fields name them. -/
namespace Workflow.Web

/-- The types of the contents that the program sends. -/
def jsonType : String := "application/json"
def plainTextType : String := "text/plain; charset=utf-8"
def eventStreamType : String := "text/event-stream"

structure MediaType where
  /-- All names are in lower case. -/
  kind : String
  subtype : String
  /-- What follows the last plus sign of the subtype, which is none of its own then. -/
  suffix : Option String := none
  deriving DecidableEq, Repr

namespace MediaType

/-- What stands behind the quote that ends a value. A value in quotes has at least one character. -/
def behindQuoted (s : List Char) : Option (List Char) :=
  let isInside (c : Char) : Bool := 32 ≤ c.toNat && c.toNat != 127
  match s with
  | [] => none
  | c :: r =>
    if !isInside c then none
    else match r.dropWhile fun c => isInside c && c != '"' with
      | '"' :: r => match r.dropWhile (· == ' ') with
        | [] => some []
        | ';' :: r => some r
        | _ => none
      | _ => none

/-- What stands behind the value of a parameter. Only the last value may be empty. -/
def behindValue (s : List Char) : Option (List Char) :=
  match s with
  | '"' :: r => behindQuoted r
  | s => match s.dropWhile isTokenChar with
    | [] => some []
    | ';' :: r => if r.length + 1 < s.length then some r else none
    | _ => none

/-- Whether a text is a list of parameters. The fuel is the length of the text. -/
def areParameters : Nat → List Char → Bool
  | 0, s => s.isEmpty
  | _ + 1, [] => true
  | fuel + 1, ' ' :: r => areParameters fuel r
  | fuel + 1, s => match s.dropWhile isTokenChar with
    | '=' :: r => r.length + 1 < s.length && (behindValue r).any (areParameters fuel)
    | _ => false

/-- The subtype before the last plus sign, and what follows it. A plus sign in front is a part of
the name. -/
def splitSuffix (s : List Char) : List Char × Option (List Char) :=
  let tail := s.reverse.takeWhile (· != '+')
  match (s.reverse.drop (tail.length + 1)).reverse with
  | [] => (s, none)
  | name => (name, some tail.reverse)

/-- Read a media type with its parameters. -/
def parse? (s : List Char) : Option MediaType :=
  let lower (cs : List Char) : String := String.ofList (cs.map Char.toLower)
  let kind := s.takeWhile isTokenChar
  match s.dropWhile isTokenChar with
  | '/' :: r =>
    let subtype := r.takeWhile isTokenChar
    let parameters : Option (List Char) := match r.dropWhile isTokenChar with
      | [] => some []
      | ';' :: p => if subtype.isEmpty then none else some p
      | _ => none
    if !kind.isEmpty && parameters.any fun p => areParameters p.length p then
      let (name, suffix) := splitSuffix subtype
      some ⟨lower kind, lower name, suffix.map lower⟩
    else none
  | _ => none

/-- Whether contents of the type are JSON. -/
def isJson (t : MediaType) : Bool :=
  t.kind == "application" && (t.subtype == "json" || t.suffix == some "json")

end MediaType
end Workflow.Web
