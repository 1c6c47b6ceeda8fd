import Workflow.Web.Coding
import Workflow.Web.Url

/-! Requests as they go over the wire. -/
namespace Workflow.Web

/-- Why a request gets no whole response. -/
inductive Error where
  | malformed
  | unservedScheme (url : Url)
  | unanswered (url : Url)
  /-- No answer came in time. -/
  | overdue (url : Url)
  /-- The connection ends before the response does. -/
  | cutShort
  deriving DecidableEq, Repr

namespace Error

def message : Error → String
  | malformed => "builder error"
  | unservedScheme url => "builder error for url (" ++ url.text ++ ")"
  | unanswered url | overdue url => "error sending request for url (" ++ url.text ++ ")"
  | cutShort => "error decoding response body"

end Error

structure Request where
  method : String
  url : Url
  /-- Header fields in their order, with names in lower case. -/
  headers : List (String × String) := []
  body : String := ""
  deriving DecidableEq, Repr

/-- Characters of methods and of the names of header fields. -/
def isTokenChar (c : Char) : Bool :=
  c.isAlphanum || ("!#$%&'*+-.^_\x60|~".toList).contains c

def isToken (s : String) : Bool := !s.isEmpty && s.toList.all isTokenChar

/-- Whether a text can be the value of a header field: it has no control characters but tabs. -/
def isFieldValue (s : String) : Bool :=
  s.toList.all fun c => c == '\t' || (32 ≤ c.toNat && c.toNat != 127)

namespace Request

/-- Add a header field behind those that there are. -/
def addHeader (r : Request) (name value : String) : Except Error Request :=
  if isToken name && isFieldValue value then
    .ok { r with headers := r.headers ++ [(String.ofList (name.toList.map Char.toLower), value)] }
  else .error .malformed

def addHeaders (r : Request) (fields : List (String × String)) : Except Error Request :=
  fields.foldlM (fun r (name, value) => r.addHeader name value) r

/-- Add a header field unless there is one of its name, which is in lower case. -/
def addDefault (r : Request) (name value : String) : Request :=
  if r.headers.any (·.1 == name) then r else { r with headers := r.headers ++ [(name, value)] }

/-- Move the name and the password of an address into a header field. -/
def moveUser (r : Request) : Request :=
  match r.url.username, r.url.password with
  | [], [] => r
  | name, password =>
    let secret := unescape name ++ utf8Bytes ':' ++ unescape password
    let field := ("authorization", "Basic " ++ String.ofList (Base64.encode secret))
    { r with headers := r.headers ++ [field], url := { r.url with username := [], password := [] } }

/-- A request without header fields. The address must have a host. -/
def of (method address : String) : Except Error Request :=
  match Url.parse address with
  | none => .error .malformed
  | some url =>
    if url.host.isNone then .error (.unservedScheme url) else .ok { method, url : Request }.moveUser

end Request
end Workflow.Web
