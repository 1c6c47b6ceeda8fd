import Workflow.Text.Encoding
import Workflow.Web.Request

/-! What comes back for a request, and the status codes of HTTP with their phrases. -/
namespace Workflow.Web

def phrases : List (Nat × String) := [
  (100, "Continue"), (101, "Switching Protocols"), (102, "Processing"), (103, "Early Hints"),
  (200, "OK"), (201, "Created"), (202, "Accepted"), (203, "Non Authoritative Information"),
  (204, "No Content"), (205, "Reset Content"), (206, "Partial Content"), (207, "Multi-Status"),
  (208, "Already Reported"), (226, "IM Used"), (300, "Multiple Choices"),
  (301, "Moved Permanently"), (302, "Found"), (303, "See Other"), (304, "Not Modified"),
  (305, "Use Proxy"), (307, "Temporary Redirect"), (308, "Permanent Redirect"),
  (400, "Bad Request"), (401, "Unauthorized"), (402, "Payment Required"), (403, "Forbidden"),
  (404, "Not Found"), (405, "Method Not Allowed"), (406, "Not Acceptable"),
  (407, "Proxy Authentication Required"), (408, "Request Timeout"), (409, "Conflict"),
  (410, "Gone"), (411, "Length Required"), (412, "Precondition Failed"),
  (413, "Payload Too Large"), (414, "URI Too Long"), (415, "Unsupported Media Type"),
  (416, "Range Not Satisfiable"), (417, "Expectation Failed"), (418, "I'm a teapot"),
  (421, "Misdirected Request"), (422, "Unprocessable Entity"), (423, "Locked"),
  (424, "Failed Dependency"), (425, "Too Early"), (426, "Upgrade Required"),
  (428, "Precondition Required"), (429, "Too Many Requests"),
  (431, "Request Header Fields Too Large"), (451, "Unavailable For Legal Reasons"),
  (500, "Internal Server Error"), (501, "Not Implemented"), (502, "Bad Gateway"),
  (503, "Service Unavailable"), (504, "Gateway Timeout"), (505, "HTTP Version Not Supported"),
  (506, "Variant Also Negotiates"), (507, "Insufficient Storage"), (508, "Loop Detected"),
  (510, "Not Extended"), (511, "Network Authentication Required")]

def phrase? (status : Nat) : Option String := phrases.lookup status

def isSuccess (status : Nat) : Bool := 200 ≤ status && status < 300

/-- The code with its phrase. -/
def statusText (status : Nat) : String :=
  toString status ++ " " ++ (phrase? status).getD "<unknown status code>"

/-- What a server sends. -/
structure Reply where
  status : Nat
  headers : List (String × String)
  body : List UInt8
  /-- Whether the connection lasts until the whole body is sent. -/
  whole : Bool := true
  deriving DecidableEq, Repr

/-- Who stands behind an address. -/
inductive Server where
  | absent
  | silent
  | answering (reply : Reply)
  deriving DecidableEq, Repr

/-- A response as it is read. -/
structure Response where
  status : Nat
  /-- Header fields in their order, with names in lower case. -/
  headers : List (String × String)
  body : List UInt8
  whole : Bool
  deriving DecidableEq, Repr

/-- The value of a header field without the blanks around it. -/
def trimField (value : String) : String :=
  let isEdge (c : Char) : Bool := c == ' ' || c == '\t'
  String.ofList ((value.toList.dropWhile isEdge).reverse.dropWhile isEdge).reverse

/-- Whether all characters of a value are ASCII and visible, or blanks. -/
def isPlainValue (value : String) : Bool :=
  value.toList.all fun c => c == '\t' || (32 ≤ c.toNat && c.toNat < 127)

/-- The header fields as they are read. -/
def readHeaders (fields : List (String × String)) : List (String × String) :=
  fields.map fun (name, value) =>
    (String.ofList (name.toList.map Char.toLower), trimField value)

/-- Whether a response never has a body. -/
def isBodiless (method : String) (status : Nat) : Bool :=
  method == "HEAD" || status < 200 || status = 204 || status = 304

/-- Send a request. Only web addresses are served, and an interim status is no answer. -/
def Server.receive (s : Server) (r : Request) : Except Error Response :=
  if !r.url.isHttp then .error (.unservedScheme r.url)
  else match s with
    | absent => .error (.unanswered r.url)
    | silent => .error (.overdue r.url)
    | answering reply =>
      if reply.status = 101 || (200 ≤ reply.status && reply.status < 1000) then
        let headers := readHeaders reply.headers
        if isBodiless r.method reply.status then .ok ⟨reply.status, headers, [], true⟩
        else .ok ⟨reply.status, headers, reply.body, reply.whole⟩
      else .error (.unanswered r.url)

/-- Servers that answer one request each, and the requests that were answered. -/
structure Peer where
  servers : List Server
  answered : List Request := []
  deriving DecidableEq, Repr

/-- Send a request to the next server. A request that cannot be sent leaves the server waiting. -/
def Peer.receive (p : Peer) (r : Request) : Except Error Response × Peer :=
  match p.servers with
  | [] => (Server.absent.receive r, p)
  | server :: servers =>
    let result := server.receive r
    match r.url.isHttp, server with
    | false, _ => (result, p)
    | true, .answering _ => (result, { servers, answered := p.answered ++ [r] })
    | true, _ => (result, { p with servers })

namespace Response

def isSuccess (r : Response) : Bool := 200 ≤ r.status && r.status < 300

/-- The first value of a header field, if it is plain. -/
def header? (r : Response) (name : String) : Option String :=
  (r.headers.lookup name).filter isPlainValue

/-- The body as a text, if it arrived as a whole. -/
def text (r : Response) : Except Error String :=
  if r.whole then .ok (String.ofList (Text.decodeLossy r.body)) else .error .cutShort

end Response

end Workflow.Web
