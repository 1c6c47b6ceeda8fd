/-! Places in documents. -/
namespace Workflow.Json

/-- What leads from a part of a document to one of its own parts. -/
inductive Segment where
  | member (key : String)
  | item (index : Nat)
  /-- A part whose name is not known yet. -/
  | unnamed
  deriving DecidableEq, Repr

/-- The way from the whole document to a part of it. -/
abbrev Way := List Segment

namespace Segment

def text : Segment → String
  | member key => key
  | item index => "[" ++ toString index ++ "]"
  | unnamed => "?"

def isItem : Segment → Bool
  | item _ => true
  | _ => false

end Segment

namespace Way

/-- The segments with points before all but the first one and the items. -/
def text : Way → String
  | [] => "."
  | first :: rest =>
    rest.foldl (fun s t => s ++ (if t.isItem then "" else ".") ++ t.text) first.text

/-- Whether the way tells nothing. -/
def isVague (way : Way) : Bool := way.all (· == .unnamed)

end Way

/-- An error with the way to the part of the document that it is about. -/
structure Placed (ε : Type) where
  error : ε
  way : Way := []
  deriving DecidableEq, Repr

namespace Placed

/-- The error seen from further up. -/
def under {ε : Type} (way : Way) (e : Placed ε) : Placed ε := { e with way := way ++ e.way }

/-- The given message of the error, behind the way to it if that tells anything. -/
def describe {ε : Type} (message : ε → String) (e : Placed ε) : String :=
  if e.way.isVague then message e.error else e.way.text ++ ": " ++ message e.error

end Placed
end Workflow.Json
