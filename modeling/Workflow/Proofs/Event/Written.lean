import Workflow.Event.Format
import Workflow.Proofs.Calendar.Moment
import Workflow.Proofs.Node.Written

/-! Events in texts: an event is read back from its text, in whatever order its members are
written. -/
namespace Workflow

open Json

/-! ### What happens -/

namespace Happening

/-- What the happening carries can be read back: its values nest no more than the text of an event
leaves room for, and an output that is there is not null. -/
def Legible : Happening → Prop
  | workflowStart _ | nodeStart _ _ _ | nodeError _ _ => True
  | nodeOutput _ data => Json.Legible 126 data
  | nodeEnd _ output elapsed => Json.Legible 126 output ∧ elapsed < Nat.pow 2 64
  | workflowEnd _ output _ elapsed =>
    (∀ value ∈ output, value ≠ .null ∧ Json.Legible 126 value) ∧ elapsed < Nat.pow 2 64

def tag : Happening → Tag
  | workflowStart _ => .workflowStart
  | nodeStart _ _ _ => .nodeStart
  | nodeOutput _ _ => .nodeOutput
  | nodeEnd _ _ _ => .nodeEnd
  | nodeError _ _ => .nodeError
  | workflowEnd _ _ _ _ => .workflowEnd

/-- The draft of the happening when the members of the given keys have been read. -/
def drafted : Happening → List String → Draft
  | workflowStart workflow, keys =>
    { workflowId := if "workflowId" ∈ keys then some workflow else none }
  | nodeStart node type name, keys => {
      nodeId := if "nodeId" ∈ keys then some node else none
      nodeType := if "nodeType" ∈ keys then some type else none
      name := if "name" ∈ keys then some name else none }
  | nodeOutput node data, keys => {
      nodeId := if "nodeId" ∈ keys then some node else none
      data := if "data" ∈ keys then some data else none }
  | nodeEnd node output elapsed, keys => {
      nodeId := if "nodeId" ∈ keys then some node else none
      anyOutput := if "output" ∈ keys then some output else none
      elapsedMs := if "elapsedMs" ∈ keys then some elapsed else none }
  | nodeError node error, keys => {
      nodeId := if "nodeId" ∈ keys then some node else none
      error := if "error" ∈ keys then some error else none }
  | workflowEnd status output error elapsed, keys => {
      status := if "status" ∈ keys then some status else none
      output := if "output" ∈ keys then some output else none
      reason := if "error" ∈ keys then some error else none
      elapsedMs := if "elapsedMs" ∈ keys then some elapsed else none }

theorem variant_typeName (what : Happening) :
    variant Tag.table what.typeName = .ok what.tag := by
  cases what <;> rfl

end Happening

/-- The draft of the error when the members of the given keys have been read. -/
def ErrorInfo.drafted (e : ErrorInfo) (keys : List String) : ErrorInfo.Draft where
  kind := if "kind" ∈ keys then some e.kind else none
  message := if "message" ∈ keys then some e.message else none

theorem NodeErrorKind.lookup_name (kind : NodeErrorKind) :
    NodeErrorKind.table.lookup kind.name = some kind := by
  cases kind <;> rfl

theorem ErrorInfo.reads (e : ErrorInfo) {src : Source} (hsrc : src.Gives e.toJson)
    (hnests : src.Nests) : Reads ErrorInfo.read e src := by
  have hjson : e.toJson = .obj [("kind", .str e.kind.name), ("message", .str e.message)] := rfl
  rw [hjson] at hsrc
  have hrecord : Reads (readRecord "struct NodeErrorInfo" ErrorInfo.slots (e.drafted []))
      (e.drafted ["message", "kind"]) src := by
    refine reads_record _ hsrc hnests (by simp) fun kv hkv => ?_
    rcases List.mem_pair.mp hkv with rfl | rfl
    · exact fills_of (reads_variant (src.part_gives _) e.kind.lookup_name) rfl
        fun keys hkeys => by simp [ErrorInfo.drafted, hkeys]
    · exact fills_of (reads_text (src.part_gives _)) rfl
        fun keys hkeys => by simp [ErrorInfo.drafted, hkeys]
  exact hrecord.andThen rfl

theorem ErrorInfo.legible (e : ErrorInfo) {depth : ℕ} : Json.Legible (depth + 1) e.toJson := by
  have hjson : e.toJson = .obj [("kind", .str e.kind.name), ("message", .str e.message)] := rfl
  have hsorted : Fields.Sorted [("kind", .str e.kind.name), ("message", .str e.message)] :=
    List.pairwise_pair.mpr (show "kind" < "message" by decide)
  rw [hjson]
  refine .obj hsorted fun kv hkv => ?_
  rcases List.mem_pair.mp hkv with rfl | rfl
  · exact .str _
  · exact .str _

theorem RunStatus.lookup_name (status : RunStatus) :
    RunStatus.table.lookup status.name = some status := by
  cases status <;> rfl

namespace Happening

/-- Every member of a happening is a value that can be read back, and fills the draft in. -/
theorem Legible.fills {what : Happening} (h : what.Legible) : ∀ kv ∈ what.payload,
    Json.Legible 126 kv.2 ∧
      Fills (slots what.tag) what.drafted kv.1 (.held (Document.ofJson kv.2)) := by
  intro kv hkv
  cases what with
  | workflowStart workflow =>
    obtain rfl := List.mem_singleton.mp hkv
    exact ⟨.str workflow, fills_of (reads_text rfl) rfl
      fun keys hkeys => by simp [drafted, hkeys]⟩
  | nodeStart node type name =>
    simp only [payload, List.mem_cons, List.not_mem_nil, or_false] at hkv
    rcases hkv with rfl | rfl | rfl
    · exact ⟨.str node, fills_of (reads_text rfl) rfl
        fun keys hkeys => by simp [drafted, hkeys]⟩
    · exact ⟨.str type.name, fills_of (reads_variant rfl type.lookup_name) rfl
        fun keys hkeys => by simp [drafted, hkeys]⟩
    · exact ⟨.str name, fills_of (reads_text rfl) rfl
        fun keys hkeys => by simp [drafted, hkeys]⟩
  | nodeOutput node data =>
    simp only [payload, List.mem_cons, List.not_mem_nil, or_false] at hkv
    rcases hkv with rfl | rfl
    · exact ⟨.str node, fills_of (reads_text rfl) rfl
        fun keys hkeys => by simp [drafted, hkeys]⟩
    · exact ⟨h, fills_of (reads_any_held h) rfl
        fun keys hkeys => by simp [drafted, hkeys]⟩
  | nodeEnd node output elapsed =>
    obtain ⟨houtput, helapsed⟩ := h
    simp only [payload, List.mem_cons, List.not_mem_nil, or_false] at hkv
    rcases hkv with rfl | rfl | rfl
    · exact ⟨.str node, fills_of (reads_text rfl) rfl
        fun keys hkeys => by simp [drafted, hkeys]⟩
    · exact ⟨houtput, fills_of (reads_any_held houtput) rfl
        fun keys hkeys => by simp [drafted, hkeys]⟩
    · exact ⟨legible_ofNat helapsed (by decide),
        fills_of (reads_natural rfl helapsed (by decide)) rfl
          fun keys hkeys => by simp [drafted, hkeys]⟩
  | nodeError node error =>
    simp only [payload, List.mem_cons, List.not_mem_nil, or_false] at hkv
    rcases hkv with rfl | rfl
    · exact ⟨.str node, fills_of (reads_text rfl) rfl
        fun keys hkeys => by simp [drafted, hkeys]⟩
    · exact ⟨error.legible, fills_of (error.reads rfl trivial) rfl
        fun keys hkeys => by simp [drafted, hkeys]⟩
  | workflowEnd status output error elapsed =>
    obtain ⟨houtput, helapsed⟩ := h
    simp only [payload, List.mem_append, List.mem_singleton] at hkv
    rcases hkv with ((rfl | hkv) | hkv) | rfl
    · exact ⟨.str status.name, fills_of (reads_variant rfl status.lookup_name) rfl
        fun keys hkeys => by simp [drafted, hkeys]⟩
    · cases output with
      | none => cases hkv
      | some value =>
        obtain rfl := List.mem_singleton.mp hkv
        obtain ⟨hne, hvalue⟩ := houtput value rfl
        exact ⟨hvalue, fills_of ((reads_any_held hvalue).some rfl hne) rfl
          fun keys hkeys => by simp [drafted, hkeys]⟩
    · cases error with
      | none => cases hkv
      | some reason =>
        obtain rfl := List.mem_singleton.mp hkv
        have htext : Reads readText reason (.held (.str reason)) := reads_text rfl
        exact ⟨.str reason, fills_of (htext.some (j := .str reason) rfl Json.noConfusion) rfl
          fun keys hkeys => by simp [drafted, hkeys]⟩
    · exact ⟨legible_ofNat helapsed (by decide),
        fills_of (reads_natural rfl helapsed (by decide)) rfl
          fun keys hkeys => by simp [drafted, hkeys]⟩

/-- The draft of which all members have been read is the draft of the happening. -/
theorem ofDraft_drafted {what : Happening} {keys : List String}
    (h : ∀ kv ∈ what.payload, kv.1 ∈ keys) : ofDraft (what.drafted keys) what.tag = .ok what := by
  cases what with
  | workflowEnd status output error elapsed =>
    have hstatus : "status" ∈ keys := h ("status", .str status.name) (by simp [payload])
    have helapsed : "elapsedMs" ∈ keys := h ("elapsedMs", .ofNat elapsed) (by simp [payload])
    have houtput : (if "output" ∈ keys then some output else none).getD none = output :=
      getD_optional fun value hvalue =>
        h ("output", value) (by simp [payload, optionalField, hvalue])
    have herror : (if "error" ∈ keys then some error else none).getD none = error :=
      getD_optional fun reason hreason =>
        h ("error", .str reason) (by simp [payload, optionalField, hreason])
    simp only [ofDraft, drafted, tag, if_pos hstatus, if_pos helapsed, houtput, herror, required,
      bind, Except.bind, pure, Except.pure]
  | _ =>
    simp [payload] at h
    simp [ofDraft, drafted, tag, required, bind, Except.bind, pure, Except.pure, h]

theorem payload_nodup (what : Happening) : (what.payload.map (·.1)).Nodup := by
  cases what with
  | workflowEnd status output error elapsed =>
    cases output <;> cases error <;> simp [payload, optionalField]
  | _ => simp [payload]

/-- The names of the members that happenings may have. -/
def memberNames : List String := ["workflowId", "nodeId", "nodeType", "name", "data", "output",
  "elapsedMs", "error", "status"]

theorem payload_names (what : Happening) : ∀ key ∈ what.payload.map (·.1), key ∈ memberNames := by
  cases what with
  | workflowEnd status output error elapsed =>
    cases output <;> cases error <;> simp [payload, optionalField, memberNames]
  | _ => simp [payload, memberNames]

/-- None of them is the name of the tag, or of a member that all events have. -/
theorem memberNames_apart : ∀ key ∈ memberNames, key ≠ "type" ∧ key ≠ "runId" ∧ key ≠ "seq" ∧
    key ≠ "timestamp" := by decide

theorem type_nodup (what : Happening) : ("type" :: what.payload.map (·.1)).Nodup :=
  List.nodup_cons.mpr ⟨fun hmem => (memberNames_apart _ (what.payload_names _ hmem)).1 rfl,
    what.payload_nodup⟩

/-- The happening is read from its members and its tag, in any order, as they were held back. -/
theorem ofHeld_eq {what : Happening} {held : Held}
    (hkeys : (held.map (·.1)).Perm ("type" :: what.payload.map (·.1)))
    (h : ∀ kd ∈ held, TagOrFills "type" what.typeName (slots what.tag) what.drafted kd.1 kd.2) :
    ofHeld .held held = .ok what := by
  obtain ⟨members, keys, htake, hmembers, hall⟩ :=
    takeTag_members what.variant_typeName hkeys what.type_nodup h
  have hempty : what.drafted [] = {} := by
    cases what <;> rfl
  have hdraft : ofDraft (what.drafted keys) what.tag = .ok what :=
    ofDraft_drafted fun kv hkv => hall kv.1 (List.mem_map_of_mem hkv)
  rw [hempty] at hmembers
  unfold ofHeld
  simp only [htake, hmembers, bind, Except.bind, hdraft]

end Happening

/-! ### Events -/

namespace Event

/-- The members of an event in the order in which they are declared. -/
def members (e : Event) : Fields :=
  [("runId", .str e.runId), ("seq", .ofNat e.seq), ("timestamp", .str e.timestamp.text)] ++
    e.what.fields

theorem toJson_eq (e : Event) : e.toJson = .obj (Fields.ofList e.members) := rfl

theorem members_nodup (e : Event) : (e.members.map (·.1)).Nodup := by
  have hapart : ∀ key, key ∈ e.what.payload.map (·.1) →
      key ≠ "type" ∧ key ≠ "runId" ∧ key ≠ "seq" ∧ key ≠ "timestamp" := fun key hkey =>
    Happening.memberNames_apart key (e.what.payload_names key hkey)
  have htype := e.what.type_nodup
  show ("runId" :: "seq" :: "timestamp" :: "type" :: e.what.payload.map (·.1)).Nodup
  rw [List.nodup_cons, List.nodup_cons, List.nodup_cons]
  simp only [List.mem_cons, not_or]
  exact ⟨⟨by decide, by decide, by decide, fun h => (hapart _ h).2.1 rfl⟩,
    ⟨by decide, by decide, fun h => (hapart _ h).2.2.1 rfl⟩,
    ⟨by decide, fun h => (hapart _ h).2.2.2 rfl⟩, htype⟩

/-- An event whose text can be read back. -/
structure Legible (e : Event) : Prop where
  seq : e.seq < Nat.pow 2 64
  timestamp : e.timestamp.Proper
  year : 0 ≤ e.timestamp.date.year ∧ e.timestamp.date.year ≤ 9999
  what : e.what.Legible

/-- The draft of the event when the members of the given keys have been read. -/
def drafted (e : Event) (keys : List String) : Draft where
  runId := if "runId" ∈ keys then some e.runId else none
  seq := if "seq" ∈ keys then some e.seq else none
  timestamp := if "timestamp" ∈ keys then some e.timestamp else none

theorem reads_moment {m : Moment} (hm : m.Proper) (hl : 0 ≤ m.date.year)
    (hg : m.date.year ≤ 9999) {src : Source} (hsrc : src.Gives (.str m.text)) :
    Reads readMoment m src := by
  refine reads_scalar hsrc (fun depth => .str _) ?_
  simp only [Document.ofJson, hm.relaxedMoment_text hl hg]

/-- Members of other names are held back. -/
theorem slots_apart {key : String} (hrun : key ≠ "runId") (hseq : key ≠ "seq")
    (htime : key ≠ "timestamp") : slots.find? (·.name == key) = none := by
  simp [slots, Slot.of, hrun.symm, hseq.symm, htime.symm]

theorem Legible.fills {e : Event} (h : e.Legible) : ∀ kv ∈ e.members,
    Fills slots e.drafted kv.1 (.text 126 kv.2) ∨
      slots.find? (·.name == kv.1) = none ∧ (∀ keys, e.drafted (kv.1 :: keys) = e.drafted keys) ∧
        ∃ doc, Reads readDocument doc (.text 126 kv.2) ∧ TagOrFills "type" e.what.typeName
          (Happening.slots e.what.tag) e.what.drafted kv.1 doc := by
  intro kv hkv
  rcases List.mem_append.mp hkv with hkv | hkv
  · left
    simp only [List.mem_cons, List.not_mem_nil, or_false] at hkv
    rcases hkv with rfl | rfl | rfl
    · exact fills_of (reads_text rfl) rfl fun keys hkeys => by simp [drafted, hkeys]
    · exact fills_of (reads_natural rfl h.seq (by decide)) rfl
        fun keys hkeys => by simp [drafted, hkeys]
    · exact fills_of (reads_moment h.timestamp h.year.1 h.year.2 rfl) rfl
        fun keys hkeys => by simp [drafted, hkeys]
  · right
    rcases List.mem_cons.mp hkv with rfl | hkv
    · exact ⟨rfl, fun keys => by simp [drafted], _, reads_document (.str _), fun _ => rfl,
        fun hne => absurd rfl hne⟩
    · have hname := e.what.payload_names _ (List.mem_map_of_mem hkv)
      obtain ⟨htype, hrun, hseq, htime⟩ := Happening.memberNames_apart _ hname
      obtain ⟨hlegible, hfills⟩ := h.what.fills kv hkv
      refine ⟨?_, fun keys => ?_, _, reads_document hlegible, fun heq => absurd heq htype,
        fun _ => hfills⟩
      · exact slots_apart hrun hseq htime
      · simp [drafted, hrun.symm, hseq.symm, htime.symm]

/-- The keys of what is held back. -/
theorem held_keys (e : Event) : (e.members.map (·.1)).filter
    (fun key => (slots.find? (·.name == key)).isNone) = "type" :: e.what.payload.map (·.1) := by
  have hown : ∀ key ∈ ["runId", "seq", "timestamp"], (slots.find? (·.name == key)).isSome := by
    decide
  have hkind : ∀ key ∈ "type" :: e.what.payload.map (·.1), slots.find? (·.name == key) = none := by
    intro key hkey
    rcases List.mem_cons.mp hkey with rfl | hkey
    · rfl
    · obtain ⟨-, hrun, hseq, htime⟩ :=
        Happening.memberNames_apart key (e.what.payload_names key hkey)
      exact slots_apart hrun hseq htime
  exact filter_apart hown hkind

/-- An event is read from its members in any order. -/
theorem Legible.reads {e : Event} (h : e.Legible) {fields : Fields}
    (hfields : fields.Perm e.members) : Reads read e (.text 127 (.obj fields)) := by
  have hkeys := hfields.map (·.1)
  obtain ⟨held, hread, hholds, hheld⟩ := reads_openRecord "struct ExecutionEvent"
    (hkeys.nodup_iff.mpr e.members_nodup) fun kv hkv => h.fills kv (hfields.mem_iff.mp hkv)
  have hpart : (held.map (·.1)).Perm ("type" :: e.what.payload.map (·.1)) := by
    rw [hheld, ← e.held_keys]
    exact hkeys.filter _
  have hwhat := Happening.ofHeld_eq hpart hholds
  have hmem : ∀ key ∈ e.members.map (·.1), key ∈ (fields.map (·.1)).reverse := fun key hkey =>
    List.mem_reverse.mpr (hkeys.mem_iff.mpr hkey)
  have hrun := hmem "runId" (by simp [members])
  have hseq := hmem "seq" (by simp [members])
  have htime := hmem "timestamp" (by simp [members])
  refine hread.andThen ?_
  simp only [drafted, if_pos hrun, if_pos hseq, if_pos htime, required, hwhat, bind, Except.bind,
    pure, Except.pure]

/-- An event is read back from its text, in whatever order its members are written, and its type
stands in the text under its name. -/
theorem ofText_written (e : Event) :
    (∀ fields : Fields, fields.Perm e.members →
      fields.get? "type" = some (.str e.what.typeName) ∧
        (e.Legible → ofText (Json.obj fields).text = .ok e)) ∧
    ∃ fields : Fields, e.toJson = .obj fields ∧ fields.Perm e.members := by
  refine ⟨fun fields hfields => ⟨?_, fun h => (h.reads hfields).readWhole⟩, _, e.toJson_eq,
    Fields.ofList_perm e.members_nodup⟩
  have hnodup := (hfields.map (·.1)).nodup_iff.mpr e.members_nodup
  exact Fields.get?_of_mem hnodup (hfields.mem_iff.mpr (by simp [members, Happening.fields]))

/-- A leap second, and an output with a fraction, a text with a line end and a list. -/
def sample : Event where
  runId := "r"
  seq := 3
  timestamp := ⟨⟨2016, 12, 31⟩, 86399, 1500000000⟩
  what := .nodeEnd "n" (.obj [("a", .num (.real ⟨false, 6755399441055744, -52⟩)),
    ("b", .str "x\n"), ("c", .arr [.null, .num (.int (-7))])]) 12

theorem sample_legible : sample.Legible := by
  have hreal : (Number.real ⟨false, 6755399441055744, -52⟩).ReadsBack := by decide +kernel
  have hsorted : Fields.Sorted [("a", .num (.real ⟨false, 6755399441055744, -52⟩)),
      ("b", .str "x\n"), ("c", .arr [.null, .num (.int (-7))])] := by
    unfold Fields.Sorted
    decide
  refine ⟨by decide, ⟨by decide, by decide, by decide, by decide⟩, by decide, .obj hsorted ?_,
    by decide⟩
  intro kv hkv
  simp only [List.mem_cons, List.not_mem_nil, or_false] at hkv
  rcases hkv with rfl | rfl | rfl
  · exact .real hreal
  · exact .str _
  · refine .arr fun item hitem => ?_
    rcases List.mem_pair.mp hitem with rfl | rfl
    · exact .null
    · exact .int (by decide) (by decide)

theorem ofText_written_of_sample :
    sample.Legible ∧ (Json.obj sample.members).text =
      "\x7b\"runId\":\"r\",\"seq\":3,\"timestamp\":\"2016-12-31T23:59:60.500Z\"," ++
      "\"type\":\"NODE_END\",\"nodeId\":\"n\"," ++
      "\"output\":\x7b\"a\":1.5,\"b\":\"x\\n\",\"c\":[null,-7]\x7d,\"elapsedMs\":12\x7d" ∧
    ofText (Json.obj sample.members).text = .ok sample :=
  ⟨sample_legible, by decide +kernel,
    ((ofText_written sample).1 sample.members (.refl _)).2 sample_legible⟩

/-! ### Events that are not read back -/

/-- The first event of a run, in which a node has put out the value. -/
def ofOutput (data : Json) (timestamp : Moment) : Event where
  runId := "r"
  seq := 1
  timestamp
  what := .nodeOutput "n" data

def midnight : Moment := ⟨⟨2024, 5, 1⟩, 0, 0⟩

/-- The double `0.9183197824351557` is read from its text as the one below it, values of more levels
than a text may have are refused, and a leap second in the midst of a minute is read as the second
behind it. -/
theorem ofText_not_written :
    ofText (ofOutput (.num (.real ⟨false, 8271489259963844, -53⟩)) midnight).toJson.text =
      .ok (ofOutput (.num (.real ⟨false, 8271489259963843, -53⟩)) midnight) ∧
    ofText (ofOutput (nested 127) midnight).toJson.text ≠ .ok (ofOutput (nested 127) midnight) ∧
    ofText (ofOutput .null ⟨midnight.date, 30, 1000000000⟩).toJson.text =
      .ok (ofOutput .null ⟨midnight.date, 31, 0⟩) := by
  simp only [ofText, readWhole, Json.text, String.toList_ofList]
  refine ⟨?_, ?_, ?_⟩ <;> decide +kernel

end Event

end Workflow
