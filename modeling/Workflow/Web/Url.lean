import Workflow.Web.Host

/-! Web addresses. -/
namespace Workflow.Web

/-- An address, each part in its normal form. -/
structure Url where
  scheme : List Char
  username : List Char := []
  password : List Char := []
  host : Option (List Char) := none
  /-- The port, unless it is the one that the scheme stands for. -/
  port : Option Nat := none
  path : List Char := []
  query : Option (List Char) := none
  fragment : Option (List Char) := none
  deriving DecidableEq, Repr

namespace Url

/-- Schemes whose addresses have a host and a path, with their ports. -/
def webSchemes : List (List Char × Nat) := [("http".toList, 80), ("https".toList, 443),
  ("ws".toList, 80), ("wss".toList, 443), ("ftp".toList, 21)]

/-- The scheme of files, which have a host as web addresses do, but need none. -/
def fileScheme : List Char := "file".toList

def fragmentMarks : List Char := [' ', '"', '<', '>', '\x60']
def pathMarks : List Char := fragmentMarks ++ ['#', '?', '\x7b', '\x7d']
def userMarks : List Char := pathMarks ++ ['/', ':', ';', '=', '@', '[', '\\', ']', '^', '|']
def queryMarks : List Char := [' ', '"', '#', '<', '>']
def webQueryMarks : List Char := queryMarks ++ ['\'']

/-- What comes before the first character of `ends`, and the rest from there on. -/
def upTo (ends : List Char) (s : List Char) : List Char × List Char :=
  s.span fun c => !ends.contains c

/-- Split a path at its slashes. -/
def segments (slashes : List Char) : List Char → List (List Char)
  | [] => [[]]
  | c :: cs =>
    if slashes.contains c then [] :: segments slashes cs
    else match segments slashes cs with
      | [] => [[c]]
      | part :: parts => (c :: part) :: parts

/-- Whether a segment is a number of dots, each perhaps written as an escape. -/
def isDots (n : Nat) (s : List Char) : Bool :=
  go n s
where
  go : Nat → List Char → Bool
    | 0, s => s.isEmpty
    | n + 1, '.' :: s => go n s
    | n + 1, '%' :: '2' :: e :: s => (e = 'e' || e = 'E') && go n s
    | _, _ => false

/-- Whether a segment names a drive: a letter with a colon, or with a bar instead. -/
def isDrive : List Char → Bool
  | [c, m] => c.isAlpha && (m == ':' || m == '|')
  | _ => false

/-- One segment up. A drive at the beginning of the path of a file stays. -/
def goUp (isFile : Bool) : List (List Char) → List (List Char)
  | [drive] => if isFile && isDrive drive then [drive] else []
  | done => done.drop 1

/-- A segment as it is put behind others. The drive of a file has a colon. -/
def settled (isFile : Bool) (done : List (List Char)) (s : List Char) : List Char :=
  if isFile && done.isEmpty && isDrive s then s.take 1 ++ [':'] else s

/-- Follow the segments: one dot stays, two dots go up. `done` holds the segments in reverse. -/
def walk (isFile : Bool) : List (List Char) → List (List Char) → List (List Char)
  | done, [] => done.reverse
  | done, [s] =>
    if isDots 2 s then ([] :: goUp isFile done).reverse
    else if isDots 1 s then ([] :: done).reverse
    else (settled isFile done s :: done).reverse
  | done, s :: rest =>
    if isDots 2 s then walk isFile (goUp isFile done) rest
    else if isDots 1 s then walk isFile done rest
    else walk isFile (settled isFile done s :: done) rest

/-- The normal form of a path behind its first slash. -/
def normalPath (isFile : Bool) (slashes s : List Char) : List Char :=
  ((walk isFile [] (segments slashes s)).map fun part => '/' :: escape pathMarks part).flatten

/-- Path, query and fragment of what follows the host. -/
def finish (u : Url) (isWeb : Bool) (s : List Char) : Url :=
  let (path, s) := upTo ['?', '#'] s
  let (query, s) := match s with
    | '?' :: s =>
      let (q, s) := upTo ['#'] s
      (some q, s)
    | s => (none, s)
  let fragment := match s with
    | '#' :: s => some s
    | _ => none
  let slashes := if isWeb then ['/', '\\'] else ['/']
  let path := match path with
    | [] => if isWeb then ['/'] else []
    | c :: rest =>
      let isFile := u.scheme == fileScheme
      if slashes.contains c then normalPath isFile slashes rest
      else if isWeb then normalPath isFile slashes path else escape [] path
  { u with
    path
    query := query.map (escape (if isWeb then webQueryMarks else queryMarks))
    fragment := fragment.map (escape fragmentMarks) }

/-- Name and password at the beginning of an authority, and the host and port behind them. -/
def splitUser (s : List Char) : List Char × List Char × List Char :=
  if s.contains '@' then
    let host := (s.reverse.takeWhile (· != '@')).reverse
    let user := s.take (s.length - host.length - 1)
    let (name, rest) := upTo [':'] user
    (escape userMarks name, escape userMarks (rest.drop 1), host)
  else ([], [], s)

/-- Host and port; a colon inside brackets belongs to the host. -/
def splitPort (s : List Char) : List Char × Option (List Char) :=
  let (bracketed, rest) := match s with
    | '[' :: _ =>
      let inside := s.takeWhile (· != ']')
      (inside ++ (s.drop inside.length).take 1, s.drop (inside.length + 1))
    | _ => ([], s)
  let (more, port) := upTo [':'] rest
  match port with
  | [] => (bracketed ++ more, none)
  | _ :: digits => (bracketed ++ more, some digits)

/-- The port that digits stand for, where `usual` need not be named. -/
def readPort (usual : Option Nat) : Option (List Char) → Option (Option Nat)
  | none | some [] => some none
  | some digits =>
    if !digits.all Char.isDigit then none
    else
      let n := digits.foldl (fun n c => 10 * n + (c.toNat - 48)) 0
      if 65535 < n then none else some (if some n = usual then none else some n)

/-- The authority and what follows it. -/
def readAuthority (u : Url) (usual : Option Nat) (s : List Char) : Option Url := do
  let isWeb := usual.isSome
  let (authority, rest) := upTo (if isWeb then ['/', '\\', '?', '#'] else ['/', '?', '#']) s
  let (username, password, address) := splitUser authority
  let (host, port) := splitPort address
  if host.isEmpty && (isWeb || authority.contains '@' || port.isSome) then none
  let host ← if isWeb then webHost? host else plainHost? host
  let port ← readPort usual port
  some (finish { u with username, password, host := some host, port } isWeb rest)

/-- The address of a file behind its scheme. This machine as the host is the same as none, and a
drive is no host. -/
def readFile (u : Url) (s : List Char) : Option Url :=
  let slashes := ['/', '\\']
  match s with
  | a :: b :: rest =>
    if slashes.contains a && slashes.contains b then
      let (host, path) := upTo ['/', '\\', '?', '#'] rest
      if isDrive host then some (finish u true ('/' :: rest))
      else if host.isEmpty then some (finish u true path)
      else do
        let name ← webHost? host
        let name := if name == "localhost".toList then [] else name
        some (finish { u with host := some name } true path)
    else some (finish u true s)
  | s => some (finish u true s)

/-- The scheme that an address starts with, and the rest behind the colon. -/
def scheme? (s : List Char) : Option (List Char × List Char) :=
  match s with
  | [] => none
  | c :: cs =>
    let isSchemeChar (c : Char) := c.isAlphanum || c == '+' || c == '-' || c == '.'
    if !c.isAlpha then none
    else match cs.dropWhile isSchemeChar with
      | ':' :: rest => some ((c :: cs.takeWhile isSchemeChar).map Char.toLower, rest)
      | _ => none

/-- Read an address that needs no other one to make sense. -/
def parse (text : String) : Option Url := do
  let isEdge (c : Char) : Bool := c.toNat ≤ 0x20
  let s := ((text.toList.dropWhile isEdge).reverse.dropWhile isEdge).reverse
  let s := s.filter fun c => c != '\t' && c != '\n' && c != '\r'
  let (scheme, rest) ← scheme? s
  let u : Url := { scheme }
  if scheme == fileScheme then readFile { u with host := some [] } rest
  else match webSchemes.lookup scheme with
  | some port => readAuthority u (some port) (rest.dropWhile fun c => c == '/' || c == '\\')
  | none => match rest with
    | '/' :: '/' :: rest => readAuthority u none rest
    | rest => some (finish u false rest)

/-- What a request names of the address. -/
def target (u : Url) : List Char :=
  u.path ++ match u.query with
    | some q => '?' :: q
    | none => []

/-- Whether requests can be sent to the address. -/
def isHttp (u : Url) : Bool := u.scheme == "http".toList || u.scheme == "https".toList

def chars (u : Url) : List Char :=
  let user := match u.username, u.password with
    | [], [] => []
    | name, [] => name ++ ['@']
    | name, password => name ++ ':' :: password ++ ['@']
  let port := match u.port with
    | some n => ':' :: (Nat.repr n).toList
    | none => []
  let authority := match u.host with
    | some h => ['/', '/'] ++ user ++ h ++ port
    | none => if ['/', '/'].isPrefixOf u.path then ['/', '.'] else []
  let fragment := match u.fragment with
    | some f => '#' :: f
    | none => []
  u.scheme ++ ':' :: authority ++ u.target ++ fragment

def text (u : Url) : String := String.ofList u.chars

end Url
end Workflow.Web
