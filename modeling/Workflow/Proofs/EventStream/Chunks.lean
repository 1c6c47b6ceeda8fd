import Workflow.EventStream.Decoder
import Workflow.Proofs.EventStream.Feeding
import Workflow.Proofs.Text.Encoding

/-! What a stream of events yields depends on the bytes that have come in, and not on the chunks in
which they came. -/
namespace Workflow.EventStream

/-- The events of the whole characters in the first `n` bytes of a text. -/
def eventsIn (text : List Char) (n : Nat) : List Message :=
  (Parser.feed {} (Text.takeBytes text n)).1

/-! ### Decoders -/

/-- The decoder has taken in the first `n` bytes of a text. -/
def Decoder.Has (d : Decoder) (text : List Char) (n : Nat) : Prop :=
  ∃ part, (Text.encode text).take n = Text.encode (Text.takeBytes text n) ++ part ∧ Text.Cut part ∧
    d = ⟨(Parser.feed {} (Text.takeBytes text n)).2, part⟩

theorem Decoder.has_empty (text : List Char) : Decoder.Has {} text 0 := by
  refine ⟨[], ?_, Text.cut_nil, ?_⟩
  · rw [Text.takeBytes_zero]
    rfl
  · rw [Text.takeBytes_zero]
    rfl

/-- A chunk moves the decoder on, and completes just the events that its bytes complete. -/
theorem Decoder.Has.feed {d : Decoder} {text : List Char} {n : Nat} {bytes : List UInt8}
    (h : d.Has text n) (htidy : Tidy text)
    (hbytes : (Text.encode text).take (n + bytes.length) = (Text.encode text).take n ++ bytes) :
    (d.feed bytes).2.Has text (n + bytes.length) ∧
      eventsIn text (n + bytes.length) = eventsIn text n ++ (d.feed bytes).1 := by
  obtain ⟨part, htake, -, rfl⟩ := h
  obtain ⟨part', htake', hcut'⟩ := Text.exists_take_encode text (n + bytes.length)
  obtain ⟨more, hmore⟩ := Text.takeBytes_prefix text (Nat.le_add_right n bytes.length)
  have hread : Text.validPrefix (part ++ bytes) = (more, part') := by
    rw [← Text.validPrefix_append more hcut']
    refine congrArg _ ((List.append_right_inj (Text.encode (Text.takeBytes text n))).mp ?_)
    rw [← List.append_assoc, ← htake, ← hbytes, htake', ← hmore]
    simp [Text.encode]
  have htidy' : Tidy (Text.takeBytes text n) :=
    fun hs => htidy (hs.trans (Text.takeBytes_prefix_self text n).isInfix)
  have hfeed := feed_append htidy' more
  rw [hmore] at hfeed
  rw [Decoder.feed, hread]
  refine ⟨⟨part', htake', hcut', ?_⟩, ?_⟩
  · rw [hfeed]
  · rw [eventsIn, hfeed, eventsIn]

/-! ### Streams -/

namespace Stream

variable {ε : Type}

/-- A stream is asked for items any number of times: what it yields, and what it is like then. -/
inductive Polled : Stream ε → List (Except ε Message) → Stream ε → Prop
  | done (s : Stream ε) : Polled s [] s
  | yield {s t u : Stream ε} {item : Except ε Message} {items : List (Except ε Message)} :
      s.poll = (some item, t) → Polled t items u → Polled s (item :: items) u
  | wait {s t u : Stream ε} {items : List (Except ε Message)} :
      s.poll = (none, t) → Polled t items u → Polled s items u

/-- A stream over chunks of a text has taken in some of them, and has yielded the items: these are,
with the events that wait, the events of the bytes that have come in. -/
structure Shows (text : List Char) (received left : List (List UInt8))
    (yielded : List (Except ε Message)) (s : Stream ε) : Prop where
  chunks : (received ++ left).flatten <+: Text.encode text
  decoder : s.decoder.Has text received.flatten.length
  source : s.source = left.map .ok
  events : yielded ++ s.waiting.map .ok = (eventsIn text received.flatten.length).map .ok

theorem Shows.receive {text : List Char} {received left : List (List UInt8)}
    {yielded : List (Except ε Message)} {d : Decoder} {source : List (Except ε (List UInt8))}
    {bytes : List UInt8} (h : Shows text received left yielded ⟨d, [], .ok bytes :: source⟩)
    (htidy : Tidy text) : ∃ left', left = bytes :: left' ∧
      Shows text (received ++ [bytes]) left' yielded
        ⟨(d.feed bytes).2, (d.feed bytes).1, source⟩ := by
  obtain ⟨hchunks, hdecoder, hsource, hevents⟩ := h
  cases left with
  | nil => cases hsource
  | cons b left =>
    obtain ⟨hb, hrest⟩ := List.cons.inj hsource
    cases hb
    have hchunks' : (received ++ [bytes] ++ left).flatten <+: Text.encode text := by
      rwa [List.append_assoc]
    have hall : received.flatten ++ bytes <+: Text.encode text := by
      refine List.IsPrefix.trans ?_ hchunks'
      simp
    have hlen : (received ++ [bytes]).flatten.length = received.flatten.length + bytes.length := by
      simp
    have htake : (Text.encode text).take (received.flatten.length + bytes.length) =
        (Text.encode text).take received.flatten.length ++ bytes := by
      rw [← List.length_append, ← List.prefix_iff_eq_take.mp hall,
        ← List.prefix_iff_eq_take.mp ((List.prefix_append _ _).trans hall)]
    obtain ⟨hhas, hmore⟩ := hdecoder.feed htidy htake
    refine ⟨left, rfl, hchunks', ?_, hrest, ?_⟩
    · rwa [hlen]
    · rw [List.map_nil, List.append_nil] at hevents
      rw [hlen, hmore, List.map_append, hevents]

theorem Shows.poll {text : List Char} {received left : List (List UInt8)}
    {yielded : List (Except ε Message)} {s : Stream ε}
    (h : Shows text received left yielded s) (htidy : Tidy text) :
    ∃ more left', left = more ++ left' ∧
      Shows text (received ++ more) left' (yielded ++ s.poll.1.toList) s.poll.2 := by
  obtain ⟨d, waiting, source⟩ := s
  change ∃ more left', left = more ++ left' ∧ Shows text (received ++ more) left'
    (yielded ++ (pollFrom d waiting source).1.toList) (pollFrom d waiting source).2
  fun_induction pollFrom d waiting source generalizing received left with
  | case1 d m waiting source =>
    refine ⟨[], left, rfl, ?_⟩
    rw [List.append_nil]
    exact ⟨h.chunks, h.decoder, h.source, by simpa using h.events⟩
  | case2 d =>
    refine ⟨[], left, rfl, ?_⟩
    rw [List.append_nil]
    exact ⟨h.chunks, h.decoder, h.source, by simpa using h.events⟩
  | case3 d e source =>
    have hsource := h.source
    cases left <;> cases hsource
  | case4 d bytes source messages d' hfeed ih =>
    obtain ⟨left, rfl, hreceived⟩ := h.receive htidy
    rw [hfeed] at hreceived
    obtain ⟨more, left', rfl, hpolled⟩ := ih hreceived
    refine ⟨bytes :: more, left', rfl, ?_⟩
    rwa [List.append_assoc] at hpolled

theorem Polled.shows {text : List Char} {received left : List (List UInt8)}
    {yielded items : List (Except ε Message)} {s t : Stream ε} (hpolled : Polled s items t)
    (htidy : Tidy text) (h : Shows text received left yielded s) :
    ∃ more left', left = more ++ left' ∧
      Shows text (received ++ more) left' (yielded ++ items) t := by
  induction hpolled generalizing received left yielded with
  | done s => exact ⟨[], left, rfl, by simpa using h⟩
  | yield hpoll _ ih | wait hpoll _ ih =>
    obtain ⟨more, left, rfl, hpolled⟩ := h.poll htidy
    rw [hpoll] at hpolled
    obtain ⟨more', left', rfl, hend⟩ := ih hpolled
    exact ⟨more ++ more', left', by simp, by simpa using hend⟩

/-- A stream without an item has nothing left. -/
theorem exhausted_of_poll {s t : Stream ε} (h : s.poll = (none, t)) :
    t.waiting = [] ∧ t.source = [] := by
  obtain ⟨d, waiting, source⟩ := s
  change pollFrom d waiting source = _ at h
  fun_induction pollFrom d waiting source with
  | case1 => cases h
  | case2 =>
    cases h
    exact ⟨rfl, rfl⟩
  | case3 => cases h
  | case4 d bytes source messages d' hfeed ih => exact ih h

theorem exists_polled_items (s : Stream ε) :
    ∃ t, Polled s s.items t ∧ t.waiting = [] ∧ t.source = [] := by
  fun_induction items s with
  | case1 s t h => exact ⟨t, .wait h (.done t), exhausted_of_poll h⟩
  | case2 s item rest h ih =>
    obtain ⟨t, hpolled, hend⟩ := ih
    exact ⟨t, .yield h hpolled, hend⟩

end Stream

variable {ε : Type}

/-- A stream over chunks of a text, before it has been asked for anything. -/
theorem shows_source {text : List Char} {chunks : List (List UInt8)}
    (h : chunks.flatten <+: Text.encode text) :
    Stream.Shows text [] chunks [] ({ source := chunks.map .ok } : Stream ε) := by
  refine ⟨h, Decoder.has_empty text, rfl, ?_⟩
  rw [List.flatten_nil, List.length_nil, eventsIn, Text.takeBytes_zero]
  rfl

theorem decode_eq_eventsIn {text : List Char} (htidy : Tidy text) {chunks : List (List UInt8)}
    (h : chunks.flatten <+: Text.encode text) :
    (decode {} (chunks.map .ok) : List (Except ε Message)) =
      (eventsIn text chunks.flatten.length).map .ok := by
  obtain ⟨s, hpolled, hwaiting, hsource⟩ :=
    Stream.exists_polled_items ({ source := chunks.map .ok } : Stream ε)
  obtain ⟨more, left, rfl, hshows⟩ := hpolled.shows htidy (shows_source h)
  have hleft : left = [] := by
    have hmap := hshows.source
    rw [hsource] at hmap
    exact List.map_eq_nil_iff.mp hmap.symm
  have hevents := hshows.events
  rw [hwaiting] at hevents
  subst hleft
  simpa [decode] using hevents

/-- However a text without a stray carriage return before a line end is cut into chunks of its
bytes, a stream over these chunks yields the events of the whole text. The first chunks yield the
events of the whole characters among their bytes; and at any moment the stream has yielded these
events of what has come in, but for those that wait until they are asked for. -/
theorem chunking_irrelevant (text : String) (chunks : List (List UInt8))
    (hreturns : ¬ ['\r', '\r', '\n'] <:+: text.toList)
    (hchunks : chunks.flatten.toByteArray = text.toUTF8) :
    (decode {} (chunks.map .ok) : List (Except ε Message)) =
      (Parser.feed {} text.toList).1.map .ok ∧
    (∀ received, received <+: chunks →
      (decode {} (received.map .ok) : List (Except ε Message)) =
        (Parser.feed {} (Text.takeBytes text.toList received.flatten.length)).1.map .ok) ∧
    (∀ items s, Stream.Polled ({ source := chunks.map .ok } : Stream ε) items s →
      ∃ received left, chunks = received ++ left ∧ s.source = left.map .ok ∧
        items ++ s.waiting.map .ok =
          (Parser.feed {} (Text.takeBytes text.toList received.flatten.length)).1.map .ok) := by
  have hbytes : chunks.flatten = Text.encode text.toList := by
    rw [String.toUTF8_eq_toByteArray, ← String.utf8Encode_toList] at hchunks
    exact List.toByteArray_inj.mp hchunks
  have hprefix : chunks.flatten <+: Text.encode text.toList := hbytes ▸ List.prefix_rfl
  refine ⟨?_, fun received hreceived => ?_, fun items s hpolled => ?_⟩
  · rw [decode_eq_eventsIn hreturns hprefix, eventsIn, Text.takeBytes_of_length_le (by rw [hbytes])]
  · refine decode_eq_eventsIn hreturns (List.IsPrefix.trans ?_ hprefix)
    obtain ⟨left, rfl⟩ := hreceived
    simp
  · obtain ⟨received, left, rfl, hshows⟩ := hpolled.shows hreturns (shows_source hprefix)
    exact ⟨received, left, rfl, hshows.source, hshows.events⟩

/-- Two events in chunks that part a character, both line ends of the first event and the empty line
of the second. -/
def partedChunks : List (List UInt8) :=
  [[100, 97, 116, 97, 58, 32, 195], [169, 13], [10, 13], [], [10, 100, 97, 116, 97, 58, 32, 98, 10],
    [10]]

theorem chunking_irrelevant_of_parted :
    ¬ ['\r', '\r', '\n'] <:+: "data: é\r\n\r\ndata: b\n\n".toList ∧
    partedChunks.flatten.toByteArray = "data: é\r\n\r\ndata: b\n\n".toUTF8 ∧
    (decode {} (partedChunks.map .ok) : List (Except Unit Message)) =
      [.ok ⟨none, "é"⟩, .ok ⟨none, "b"⟩] ∧
    (decode {} ((partedChunks.take 5).map .ok) : List (Except Unit Message)) =
      [.ok ⟨none, "é"⟩] := by
  have hreturns : ¬ ['\r', '\r', '\n'] <:+: "data: é\r\n\r\ndata: b\n\n".toList := by decide
  have hchunks : partedChunks.flatten.toByteArray = "data: é\r\n\r\ndata: b\n\n".toUTF8 := by
    decide
  have h := @chunking_irrelevant Unit _ partedChunks hreturns hchunks
  refine ⟨hreturns, hchunks, h.1.trans ?_, (h.2.1 _ (List.take_prefix 5 _)).trans ?_⟩
  · decide
  · decide

end Workflow.EventStream
