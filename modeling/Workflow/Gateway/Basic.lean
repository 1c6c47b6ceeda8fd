import Workflow.Event.Format
import Workflow.Web.Exchange
import Workflow.Web.MediaType

/-! What the gateway is asked over HTTP, and what it answers. -/
namespace Workflow.Gateway

structure Request where
  method : String
  /-- The path of the address with its query. -/
  target : String
  headers : List (String × String) := []
  body : String := ""
  deriving DecidableEq, Repr

namespace Request

/-- The path of the address, without query and fragment. -/
def path (r : Request) : String :=
  String.ofList (r.target.toList.takeWhile fun c => c != '?' && c != '#')

/-- The first value of a header field, whose name is in lower case. -/
def header? (r : Request) (name : String) : Option String :=
  (r.headers.find? fun (n, _) => n.toLower == name).map (·.2)

/-- Whether the body is said to be JSON. -/
def hasJson (r : Request) : Bool :=
  match (r.header? "content-type").filter Web.isPlainValue with
  | none => false
  | some value => (Web.MediaType.parse? value.toList).any (·.isJson)

end Request

inductive Body where
  | empty
  | text (s : String)
  | json (v : Json)
  /-- The events of a run, sent one by one. -/
  | events (es : List Event)
  deriving DecidableEq, Repr

def Body.mediaType? : Body → Option String
  | empty => none
  | text _ => some Web.plainTextType
  | json _ => some Web.jsonType
  | events _ => some Web.eventStreamType

structure Response where
  status : Nat
  body : Body := .empty
  mediaType : Option String := body.mediaType?
  /-- The methods that there are, told to who asks with another one. -/
  allow : Option String := none
  /-- The run whose events follow. -/
  runId : Option String := none
  /-- Who may read the response in a browser. -/
  readableBy : String := "*"
  deriving DecidableEq, Repr

namespace Response

/-- The response without its body, for who only asks for its head. -/
def headOnly (r : Response) : Response := { r with body := .empty }

/-- The header fields, apart from those of the connection. -/
def headers (r : Response) : List (String × String) :=
  let field (name : String) (value : Option String) : List (String × String) :=
    value.toList.map fun v => (name, v)
  field "content-type" r.mediaType ++ field "allow" r.allow ++ field "x-run-id" r.runId
    ++ [("access-control-allow-origin", r.readableBy)]

end Response
end Workflow.Gateway
