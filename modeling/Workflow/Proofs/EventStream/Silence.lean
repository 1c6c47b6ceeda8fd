import Workflow.Proofs.EventStream.Chunks
import Workflow.Proofs.Text.Malformed

/-! Streams whose bytes are malformed somewhere: the bytes from there on are held back for good, so
that the stream goes on without an error and without events. -/
namespace Workflow.EventStream

variable {ε : Type}

/-! ### Items -/

namespace Stream

theorem items_congr {s t : Stream ε} (h : s.poll = t.poll) : s.items = t.items := by
  rw [items, items]
  split <;> split <;> simp_all

theorem items_of_poll {s t : Stream ε} {item : Except ε Message} (h : s.poll = (some item, t)) :
    s.items = item :: t.items := by
  rw [items]
  split
  · simp_all
  · simp_all

theorem items_waiting (d : Decoder) (waiting : List Message)
    (source : List (Except ε (List UInt8))) :
    items ⟨d, waiting, source⟩ = waiting.map .ok ++ decode d source := by
  induction waiting with
  | nil => rfl
  | cons m waiting ih =>
    have hpoll : poll ⟨d, m :: waiting, source⟩ = (some (.ok m), ⟨d, waiting, source⟩) := by
      rw [poll, pollFrom]
    rw [items_of_poll hpoll, ih]
    rfl

end Stream

theorem decode_nil (d : Decoder) : decode d ([] : List (Except ε (List UInt8))) = [] := by
  rw [decode, Stream.items]
  split
  · rfl
  · rename_i h
    cases h

theorem decode_error (d : Decoder) (e : ε) (source : List (Except ε (List UInt8))) :
    decode d (.error e :: source) = .error e :: decode d source :=
  Stream.items_of_poll (by rw [Stream.poll, Stream.pollFrom])

theorem decode_ok (d : Decoder) (bytes : List UInt8) (source : List (Except ε (List UInt8))) :
    decode d (.ok bytes :: source) =
      (d.feed bytes).1.map .ok ++ decode (d.feed bytes).2 source := by
  rw [← Stream.items_waiting]
  exact Stream.items_congr (by rw [Stream.poll, Stream.pollFrom]; rfl)

/-! ### Decoders -/

/-- The decoder that has taken in the bytes. -/
def Decoder.after (bytes : List UInt8) : Decoder :=
  ⟨(Parser.feed {} (Text.validPrefix bytes).1).2, (Text.validPrefix bytes).2⟩

/-- The events of the text that the bytes begin with. -/
def eventsOf (bytes : List UInt8) : List Message := (Parser.feed {} (Text.validPrefix bytes).1).1

theorem Tidy.of_prefix {s t : List Char} (h : Tidy t) (hs : s <+: t) : Tidy s :=
  fun hreturns => h (hreturns.trans hs.isInfix)

theorem Decoder.feed_after {bytes : List UInt8} (h : Tidy (Text.validPrefix bytes).1)
    (more : List UInt8) : ((after bytes).feed more).2 = after (bytes ++ more) ∧
      eventsOf (bytes ++ more) = eventsOf bytes ++ ((after bytes).feed more).1 := by
  rw [eventsOf, after, after, Text.validPrefix_append_bytes, feed_append h]
  exact ⟨rfl, rfl⟩

theorem decode_after {bytes : List UInt8} {chunks : List (List UInt8)}
    (h : Tidy (Text.validPrefix (bytes ++ chunks.flatten)).1)
    (later : List (Except ε (List UInt8))) :
    (eventsOf bytes).map .ok ++ decode (.after bytes) (chunks.map .ok ++ later) =
      (eventsOf (bytes ++ chunks.flatten)).map .ok ++
        decode (.after (bytes ++ chunks.flatten)) later := by
  induction chunks generalizing bytes with
  | nil => simp
  | cons chunk chunks ih =>
    rw [List.flatten_cons, ← List.append_assoc] at h ⊢
    have hbefore : Tidy (Text.validPrefix bytes).1 := by
      refine h.of_prefix ?_
      rw [List.append_assoc, Text.validPrefix_append_bytes]
      exact List.prefix_append _ _
    obtain ⟨hafter, hevents⟩ := Decoder.feed_after hbefore chunk
    rw [← ih h, hevents, List.map_cons, List.cons_append, decode_ok, hafter, List.map_append,
      List.append_assoc]

/-! ### Silence -/

/-- The transport failures of a source. -/
def failures : List (Except ε (List UInt8)) → List (Except ε Message)
  | [] => []
  | .error e :: source => .error e :: failures source
  | .ok _ :: source => failures source

/-- A decoder that is stuck takes in bytes, and nothing comes of them. -/
theorem decode_of_stuck {d : Decoder} (hheld : Text.Stuck d.held)
    (hquiet : d.parser.feed [] = ([], d.parser)) (later : List (Except ε (List UInt8))) :
    decode d later = failures later := by
  induction later generalizing d with
  | nil => rw [decode_nil, failures]
  | cons item later ih =>
    cases item with
    | error e => rw [decode_error, failures, ih hheld hquiet]
    | ok bytes =>
      have hstuck := hheld.append bytes
      have hfeed : d.feed bytes = ([], ⟨d.parser, d.held ++ bytes⟩) := by
        rw [Decoder.feed, hstuck.validPrefix_eq]
        simp only [hquiet]
      rw [decode_ok, hfeed, failures, ← ih (d := ⟨d.parser, d.held ++ bytes⟩) hstuck hquiet]
      rfl

/-- Nothing more comes of a tidy text without more of it. -/
theorem feed_nil_of_tidy {s : List Char} (h : Tidy s) :
    (Parser.feed {} s).2.feed [] = ([], (Parser.feed {} s).2) := by
  have happend := feed_append h []
  rw [List.append_nil] at happend
  exact Prod.ext (List.self_eq_append_right.mp (congrArg Prod.fst happend))
    (congrArg Prod.snd happend).symm

theorem decode_malformed {chunks : List (List UInt8)} {text : List Char} {bad : List UInt8}
    (hchunks : chunks.flatten = Text.encode text ++ bad) (hbad : Text.Stuck bad)
    (htidy : Tidy text) (later : List (Except ε (List UInt8))) :
    decode {} (chunks.map .ok ++ later) = (Parser.feed {} text).1.map .ok ++ failures later := by
  have hread : Text.validPrefix ([] ++ chunks.flatten) = (text, bad) := by
    rw [List.nil_append, hchunks, Text.validPrefix_encode_append, hbad.validPrefix_eq,
      List.append_nil]
  have hwhole : Tidy (Text.validPrefix ([] ++ chunks.flatten)).1 := by rwa [hread]
  have hafter := decode_after hwhole later
  rw [eventsOf, eventsOf, Decoder.after, Decoder.after, hread] at hafter
  rw [← decode_of_stuck (d := ⟨(Parser.feed {} text).2, bad⟩) hbad (feed_nil_of_tidy htidy)]
  exact hafter

/-- Behind malformed bytes a stream yields transport failures and nothing else, whatever comes. Its
events are those of the text before; they are as many as there would be with something in place of
the malformed bytes only if no event is complete behind these. -/
theorem malformed_silences {chunks : List (List UInt8)} {text : List Char} {bad : List UInt8}
    (hchunks : chunks.flatten = Text.encode text ++ bad) (hbad : Text.Stuck bad)
    (htidy : Tidy text) :
    (∀ later : List (Except ε (List UInt8)), decode {} (chunks.map .ok ++ later) =
      (Parser.feed {} text).1.map .ok ++ failures later) ∧
    ∃ rest, Text.decodeLossy chunks.flatten = text ++ Text.replacement :: rest ∧
      ((Parser.feed {} (Text.decodeLossy chunks.flatten)).1.length ≤
          (decode {} (chunks.map .ok) : List (Except ε Message)).length ↔
        ((Parser.feed {} text).2.feed (Text.replacement :: rest)).1 = []) := by
  have hdecode := decode_malformed (ε := ε) hchunks hbad htidy
  obtain ⟨rest, hrest⟩ := Text.exists_decodeLossy text hbad
  rw [← hchunks] at hrest
  refine ⟨hdecode, rest, hrest, ?_⟩
  have hyields := hdecode []
  rw [List.append_nil, failures, List.append_nil] at hyields
  rw [hrest, feed_append htidy, hyields, List.length_append, List.length_map,
    ← List.length_eq_zero_iff]
  omega

/-- Bytes with one that begins no character, and an event behind it. -/
def maskedChunks : List (List UInt8) :=
  [[100, 97, 116, 97, 58, 32, 97, 10, 10, 255, 10], [10, 100, 97, 116, 97, 58, 32, 98, 10, 10]]

theorem flatten_masked : maskedChunks.flatten =
    Text.encode "data: a\n\n".toList ++ maskedChunks.flatten.drop 9 := by decide

theorem stuck_masked : Text.Stuck (maskedChunks.flatten.drop 9) :=
  Text.stuck_iff.mpr ⟨255, _, _, rfl, rfl⟩

theorem tidy_masked : Tidy "data: a\n\n".toList := by
  unfold Tidy
  decide

theorem malformed_silences_of_masked :
    maskedChunks.flatten = Text.encode "data: a\n\n".toList ++ maskedChunks.flatten.drop 9 ∧
    Text.Stuck (maskedChunks.flatten.drop 9) ∧ Tidy "data: a\n\n".toList ∧
    (decode {} (maskedChunks.map .ok ++ [.ok [10], .error (), .ok [10]]) :
      List (Except Unit Message)) = [.ok ⟨none, "a"⟩, .error ()] :=
  ⟨flatten_masked, stuck_masked, tidy_masked,
    ((malformed_silences flatten_masked stuck_masked tidy_masked).1 _).trans (by decide)⟩

/-- Streams over malformed bytes yield an error, or as many events as there are with something in
place of the malformed bytes. -/
def NeverSilent (ε : Type) : Prop :=
  ∀ chunks : List (List UInt8), Text.Malformed chunks.flatten →
    (∃ e, .error e ∈ (decode {} (chunks.map .ok) : List (Except ε Message))) ∨
    (Parser.feed {} (Text.decodeLossy chunks.flatten)).1.length ≤
      (decode {} (chunks.map .ok) : List (Except ε Message)).length

/-- One event of two is lost without an error. -/
theorem not_neverSilent_of_masked : ¬ NeverSilent Unit := by
  intro h
  have hyields := decode_malformed (ε := Unit) flatten_masked stuck_masked tidy_masked []
  rw [List.append_nil] at hyields
  rcases h maskedChunks (Text.malformed_iff.mpr ⟨_, _, flatten_masked, stuck_masked⟩)
    with ⟨e, he⟩ | hlen
  · rw [hyields] at he
    simp [failures] at he
  · rw [hyields] at hlen
    revert hlen
    decide

end Workflow.EventStream
