import Workflow.Text.Blank
import Workflow.Text.Search

/-! Event streams of servers, read as their text arrives. -/
namespace Workflow.EventStream

/-- An event that a server sent. -/
structure Message where
  type : Option String := none
  data : String
  deriving DecidableEq, Repr

/-- The text in front of the first empty line, and the text behind it. -/
def cutBlock? : List Char → Option (List Char × List Char)
  | [] => none
  | '\n' :: '\n' :: rest => some ([], rest)
  | c :: cs => (cutBlock? cs).map fun (block, rest) => (c :: block, rest)

/-- The fields of a block as far as they are read. -/
structure Draft where
  type : Option (List Char) := none
  data : List (List Char) := []
  deriving DecidableEq, Repr

/-- Take in a line. The last type counts; a blank at the beginning of data is left out. -/
def Draft.addLine (d : Draft) (line : List Char) : Draft :=
  match Text.dropLead? "event:".toList line with
  | some v => { d with type := some (Text.trimStart v) }
  | none => match Text.dropLead? "data:".toList line with
    | some (' ' :: v) => { d with data := d.data ++ [v] }
    | some v => { d with data := d.data ++ [v] }
    | none => d

/-- The event with the fields that were read, which is none without data. -/
def Draft.message? (d : Draft) : Option Message :=
  match d.data with
  | [] => none
  | data => some ⟨d.type.map String.ofList, String.ofList (['\n'].intercalate data)⟩

/-- The event of a block. -/
def message? (block : List Char) : Option Message :=
  ((Text.lines (block ++ ['\n'])).foldl Draft.addLine {}).message?

/-- The events of the finished blocks, and the text that is left. The fuel is the length of the
text. -/
def takeBlocks : Nat → List Char → List Message × List Char
  | 0, buffer => ([], buffer)
  | fuel + 1, buffer => match cutBlock? buffer with
    | none => ([], buffer)
    | some (block, rest) =>
      let (messages, left) := takeBlocks fuel rest
      ((message? block).toList ++ messages, left)

/-- Line ends with a carriage return made plain line feeds. -/
def plainLineEnds (s : List Char) : List Char :=
  if s.contains '\r' then Text.replace ['\r', '\n'] ['\n'] s else s

/-- A parser holds the text that has not become an event yet. -/
structure Parser where
  buffer : List Char := []
  deriving DecidableEq, Repr

/-- Take in text, and give out the events that it completes. -/
def Parser.feed (p : Parser) (chunk : List Char) : List Message × Parser :=
  let buffer := plainLineEnds (p.buffer ++ chunk)
  let (messages, left) := takeBlocks buffer.length buffer
  (messages, ⟨left⟩)

end Workflow.EventStream
