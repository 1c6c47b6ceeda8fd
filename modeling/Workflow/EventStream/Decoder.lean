import Workflow.EventStream.Parser
import Workflow.Text.Encoding

/-! Event streams read as their bytes arrive. -/
namespace Workflow.EventStream

/-- A decoder holds back bytes that are no whole characters yet. -/
structure Decoder where
  parser : Parser := {}
  held : List UInt8 := []
  deriving DecidableEq, Repr

/-- Take in bytes, and give out the events that they complete. -/
def Decoder.feed (d : Decoder) (bytes : List UInt8) : List Message × Decoder :=
  let (text, held) := Text.validPrefix (d.held ++ bytes)
  let (messages, parser) := d.parser.feed text
  (messages, ⟨parser, held⟩)

/-- Events over a source of chunks of bytes and transport failures. Events that are complete wait
until they are asked for. -/
structure Stream (ε : Type) where
  decoder : Decoder := {}
  waiting : List Message := []
  source : List (Except ε (List UInt8))

namespace Stream

variable {ε : Type}

/-- Ask a stream with the given parts for an item. -/
def pollFrom (d : Decoder) (waiting : List Message) (source : List (Except ε (List UInt8))) :
    Option (Except ε Message) × Stream ε :=
  match waiting, source with
  | m :: waiting, source => (some (.ok m), ⟨d, waiting, source⟩)
  | [], [] => (none, ⟨d, [], []⟩)
  | [], .error e :: source => (some (.error e), ⟨d, [], source⟩)
  | [], .ok bytes :: source =>
    let (messages, d) := d.feed bytes
    pollFrom d messages source

/-- Ask for the next event or transport failure. The source is read only while no event waits; there
is no item when nothing is left of it. -/
def poll (s : Stream ε) : Option (Except ε Message) × Stream ε :=
  pollFrom s.decoder s.waiting s.source

/-- An item takes something from the source, or else one of the events that wait. -/
theorem lt_of_pollFrom {d : Decoder} {waiting : List Message}
    {source : List (Except ε (List UInt8))} {item : Except ε Message} {s : Stream ε}
    (h : pollFrom d waiting source = (some item, s)) :
    s.source.length < source.length ∨
      s.source.length = source.length ∧ s.waiting.length < waiting.length := by
  fun_induction pollFrom d waiting source with
  | case1 d m waiting source =>
    cases h
    exact Or.inr ⟨rfl, Nat.lt_succ_self _⟩
  | case2 => cases h
  | case3 d e source =>
    cases h
    exact Or.inl (Nat.lt_succ_self _)
  | case4 d bytes source messages d' hfeed ih =>
    left
    rw [List.length_cons]
    rcases ih h with hlt | ⟨heq, -⟩ <;> omega

/-- All items of a stream. -/
def items (s : Stream ε) : List (Except ε Message) :=
  match _h : s.poll with
  | (none, _) => []
  | (some item, rest) => item :: rest.items
  termination_by (s.source.length, s.waiting.length)
  decreasing_by
    rw [Prod.lex_def]
    exact lt_of_pollFrom _h

end Stream

/-- What comes of chunks of bytes and transport failures, in their order. -/
def decode {ε : Type} (d : Decoder) (source : List (Except ε (List UInt8))) :
    List (Except ε Message) := Stream.items { decoder := d, source }

end Workflow.EventStream
