import Workflow.Proofs.Definition.Written
import Workflow.Proofs.Json.Accepted

/-! Workflows that are read: from whatever text a workflow is read, it nests no more levels than it
may, so that it is read back from its own text as far as its numbers are. -/
namespace Workflow

open Json

namespace Payload

/-- What has been read of a payload is of so many levels at the most, and in its ranges. -/
structure Draft.Fits (depth : ℕ) (draft : Draft) : Prop where
  maxTokens : ∀ o ∈ draft.maxTokens, ∀ n ∈ o, n < Nat.pow 2 32
  arguments : ∀ j ∈ draft.arguments, Json.Fits depth j
  headers : ∀ pairs ∈ draft.headers, pairs.Pairwise fun p q => p.1 < q.1

variable {depth : ℕ}

theorem slots_keep (type : NodeType) :
    ∀ slot ∈ slots type, slot.Keeps depth (Draft.Fits depth) := by
  cases type <;> simp only [slots, List.forall_mem_cons, List.not_mem_nil, false_imp_iff,
    implies_true, and_true]
  case start | condition | information =>
    exact Slot.keeps_any fun _ _ h => ⟨h.maxTokens, h.arguments, h.headers⟩
  case code =>
    constructor <;> exact Slot.keeps_any fun _ _ h => ⟨h.maxTokens, h.arguments, h.headers⟩
  case llm =>
    refine ⟨?_, ?_, ?_, ?_, ?_, ?_⟩
    case refine_6 =>
      exact Slot.keeps_of yields_natural.option fun _ _ ho h =>
        ⟨fun _ heq => Option.some.inj heq ▸ ho, h.arguments, h.headers⟩
    all_goals exact Slot.keeps_any fun _ _ h => ⟨h.maxTokens, h.arguments, h.headers⟩
  case tool =>
    constructor
    · exact Slot.keeps_any fun _ _ h => ⟨h.maxTokens, h.arguments, h.headers⟩
    · exact Slot.keeps_of yields_any fun _ _ hj h =>
        ⟨h.maxTokens, fun _ heq => Option.some.inj heq ▸ hj, h.headers⟩
  case http =>
    refine ⟨?_, ?_, ?_, ?_⟩
    case refine_3 =>
      exact Slot.keeps_of yields_map fun _ _ hs h =>
        ⟨h.maxTokens, h.arguments, fun _ heq => Option.some.inj heq ▸ hs⟩
    all_goals exact Slot.keeps_any fun _ _ h => ⟨h.maxTokens, h.arguments, h.headers⟩

theorem Draft.Fits.ofDraft {draft : Draft} {type : NodeType} {payload : Payload}
    (h : draft.Fits depth) (hpayload : ofDraft draft type = .ok payload) :
    payload.Fits depth := by
  cases type with
  | start | finish | information =>
    cases hpayload
    trivial
  | condition =>
    obtain ⟨expression, -, hpayload⟩ := bind_eq_ok.mp hpayload
    cases hpayload
    trivial
  | code =>
    obtain ⟨language, -, hpayload⟩ := bind_eq_ok.mp hpayload
    obtain ⟨source, -, hpayload⟩ := bind_eq_ok.mp hpayload
    cases hpayload
    trivial
  | llm =>
    obtain ⟨prompt, -, hpayload⟩ := bind_eq_ok.mp hpayload
    cases hpayload
    exact ⟨fun _ _ => trivial, getD_of h.maxTokens nofun⟩
  | tool =>
    obtain ⟨name, -, hpayload⟩ := bind_eq_ok.mp hpayload
    cases hpayload
    exact getD_of h.arguments .null
  | http =>
    obtain ⟨url, -, hpayload⟩ := bind_eq_ok.mp hpayload
    cases hpayload
    exact getD_of h.headers .nil

theorem ofHeld_fits {held : Held} {payload : Payload} (hheld : ∀ kd ∈ held, kd.2.Within depth)
    (h : ofHeld held = .ok payload) : payload.Fits depth := by
  obtain ⟨⟨type, members⟩, htag, h⟩ := bind_eq_ok.mp h
  obtain ⟨draft, hdraft, h⟩ := bind_eq_ok.mp h
  have hmembers := takeTag_within hheld (by simp) htag
  have hempty : Draft.Fits depth {} := ⟨nofun, nofun, nofun⟩
  exact (membersOfDocument_keeps (slots_keep type) hmembers hempty hdraft).ofDraft h

end Payload

namespace Node

/-- What has been read of a node is of so many levels at the most, and in its ranges. -/
structure Draft.Fits (depth : ℕ) (draft : Draft) : Prop where
  metadata : ∀ j ∈ draft.metadata, Json.Fits depth j
  generateFields : ∀ pairs ∈ draft.generateFields, pairs.Pairwise fun p q => p.1 < q.1
  timeoutSecs : ∀ o ∈ draft.timeoutSecs, ∀ n ∈ o, n < Nat.pow 2 64

variable {depth : ℕ}

theorem slots_keep : ∀ slot ∈ slots, slot.Keeps depth (Draft.Fits depth) := by
  simp only [slots, List.forall_mem_cons, List.not_mem_nil, false_imp_iff, implies_true, and_true]
  refine ⟨?_, ?_, ?_, ?_, ?_, ?_, ?_, ?_⟩
  case refine_4 =>
    exact Slot.keeps_of yields_any fun _ _ hj h =>
      ⟨fun _ heq => Option.some.inj heq ▸ hj, h.generateFields, h.timeoutSecs⟩
  case refine_6 =>
    exact Slot.keeps_of yields_map fun _ _ hs h =>
      ⟨h.metadata, fun _ heq => Option.some.inj heq ▸ hs, h.timeoutSecs⟩
  case refine_8 =>
    exact Slot.keeps_of yields_natural.option fun _ _ ho h =>
      ⟨h.metadata, h.generateFields, fun _ heq => Option.some.inj heq ▸ ho⟩
  all_goals exact Slot.keeps_any fun _ _ h => ⟨h.metadata, h.generateFields, h.timeoutSecs⟩

/-- Whatever node is read, its parts are of the levels that are left to them. -/
theorem yields_read : Yields read (depth + 1) (Fits depth) := by
  have hempty : Draft.Fits depth {} := ⟨nofun, nofun, nofun⟩
  refine (yields_openRecord slots_keep hempty).andThen ?_
  rintro ⟨draft, held⟩ node ⟨hdraft, hheld⟩ h
  obtain ⟨id, -, h⟩ := bind_eq_ok.mp h
  obtain ⟨payload, hpayload, h⟩ := bind_eq_ok.mp h
  cases h
  exact ⟨getD_of hdraft.metadata .null, getD_of hdraft.generateFields .nil,
    getD_of hdraft.timeoutSecs nofun, Payload.ofHeld_fits hheld hpayload⟩

end Node

namespace Definition

/-- The nodes that have been read are of the levels that are left to them. -/
def Draft.Fits (draft : Draft) : Prop :=
  ∀ nodes ∈ draft.nodes, ∀ node ∈ nodes, node.Fits 124

theorem slots_keep : ∀ slot ∈ slots, slot.Keeps 126 Draft.Fits := by
  simp only [slots, List.forall_mem_cons, List.not_mem_nil, false_imp_iff, implies_true, and_true]
  refine ⟨?_, ?_, ?_, ?_⟩
  case refine_3 =>
    exact Slot.keeps_of Node.yields_read.list fun _ _ hnodes _ _ heq =>
      Option.some.inj heq ▸ hnodes
  all_goals exact Slot.keeps_any fun _ _ h => h

theorem yields_read : Yields read 127 Fits := by
  have hempty : Draft.Fits {} := nofun
  refine (yields_record slots_keep hempty).andThen ?_
  intro draft d hdraft h
  obtain ⟨nodes, hnodes, h⟩ := bind_eq_ok.mp h
  cases h
  cases hread : draft.nodes with
  | none =>
    rw [hread] at hnodes
    cases hnodes
  | some read =>
    rw [hread] at hnodes
    cases hnodes
    exact hdraft _ hread

theorem fits_of_ofText {text : String} {d : Definition} (h : ofText text = .ok d) :
    d.Fits :=
  yields_read.of_readWhole h

end Definition

/-! ### Reading back -/

namespace Payload

/-- The numbers in JSON that the payload carries and that are no integers. -/
def reals : Payload → List Binary
  | tool _ arguments => arguments.reals
  | _ => []

def temperature? : Payload → Option Single
  | llm c => c.temperature
  | _ => none

theorem Fits.legible {payload : Payload} {depth : ℕ}
    (h : payload.Fits depth)
    (hreals : ∀ x ∈ payload.reals, (Number.real x).ReadsBack)
    (htemperature : ∀ x ∈ payload.temperature?, x.ReadsBack) : payload.Legible depth := by
  cases payload with
  | llm c => exact ⟨htemperature, h.2⟩
  | tool name arguments => exact Json.Within.of_reals h hreals
  | http c => exact h
  | start | finish | condition | code | information => trivial

end Payload

/-- The numbers in JSON that the node carries and that are no integers. -/
def Node.reals (node : Node) : List Binary := node.metadata.reals ++ node.payload.reals

namespace Definition

/-- The numbers of the workflow that are no integers are read back from what is printed of them. -/
def Exact (d : Definition) : Prop := ∀ node ∈ d.nodes,
  (∀ x ∈ node.reals, (Number.real x).ReadsBack) ∧ ∀ x ∈ node.payload.temperature?, x.ReadsBack

theorem Fits.legible {d : Definition} (h : d.Fits)
    (hd : d.Exact) : d.Legible := by
  intro node hnode
  obtain ⟨hreals, htemperature⟩ := hd node hnode
  obtain ⟨hmetadata, hgenerate, htimeout, hpayload⟩ := h node hnode
  rw [Node.reals, List.forall_mem_append] at hreals
  exact ⟨hmetadata.of_reals hreals.1, hgenerate, htimeout,
    Payload.Fits.legible hpayload hreals.2 htemperature⟩

/-- A workflow is read back from its text, in whatever order its members are written, when it nests
no more than a text may and its numbers are read back; from whatever text it has been read, it does
not nest more. -/
theorem ofText_text_of_written (d : Definition) :
    d.Written d.toJson ∧
    (d.Legible → ∀ j, d.Written j → ofText j.text = .ok d) ∧
    ∀ text, ofText text = .ok d → d.Exact → ∀ j, d.Written j → ofText j.text = .ok d := by
  have hreads : d.Legible → ∀ j, d.Written j → ofText j.text = .ok d :=
    fun h j hj => (h.reads hj).readWhole
  refine ⟨d.toJson_written, hreads, fun text htext hexact => ?_⟩
  exact hreads ((fits_of_ofText htext).legible hexact)

def question : LlmConfig where
  prompt := "About \x7btopic\x7d"
  outputSchema := .json
  temperature := some (.finite ⟨false, 11744051, -24⟩)
  maxTokens := some 4096

def look : Node where
  id := "look"
  name := "Look it up"
  description := "say \"more\"\n"
  metadata := .arr [.bool true, .null, .num (.real ⟨true, 6755399441055744, -52⟩)]
  usageFields := ["topic"]
  generateFields := [("page", .text), ("title", .text)]
  onError := .proceed
  timeoutSecs := some 30
  payload := .tool "web_fetch" (.obj [("depth", .num (.int 2)),
    ("weight", .num (.real ⟨false, 4503599627370496, -53⟩))])

/-- Nodes of all types. -/
def sample : Definition where
  id := "all"
  name := some "All of them"
  nodes := [.ofPayload "start" (.start ["topic"]), look, .ofPayload "ask" (.llm question),
    .ofPayload "send" (.http { url := "http://h/", headers := [("a", "1"), ("b", "2")] }),
    .ofPayload "run" (.code "python" "print(1)"), .ofPayload "check" (.condition "x > 1"),
    .ofPayload "note" (.information none), .ofPayload "end" .finish]
  edges := [.between "start" "look", .branch "check" "end" true]

theorem question_legible {depth : ℕ} : (Payload.llm question).Legible depth := by
  refine ⟨fun x hx => ?_, fun n hn => ?_⟩
  · obtain rfl := Option.some.inj hx
    exact ⟨.real (Binary.ofRatio .double false 7 10), .real (Binary.ofRatio .double false 7 10),
      by decide +kernel, by decide +kernel, by decide +kernel⟩
  · obtain rfl := Option.some.inj hn
    decide

theorem look_legible : look.Legible 124 := by
  have hreal : (Number.real ⟨true, 6755399441055744, -52⟩).ReadsBack := by decide +kernel
  have hweight : (Number.real ⟨false, 4503599627370496, -53⟩).ReadsBack := by decide +kernel
  constructor
  case metadata =>
    refine .arr ?_
    simp only [List.forall_mem_cons, List.not_mem_nil, false_imp_iff, implies_true, and_true]
    exact ⟨.bool true, .null, .real hreal⟩
  case generateFields => decide
  case timeoutSecs =>
    rintro n hn
    obtain rfl := Option.some.inj hn
    decide
  case payload =>
    refine .obj (List.pairwise_pair.mpr (show "depth" < "weight" by decide)) ?_
    simp only [List.forall_mem_cons, List.not_mem_nil, false_imp_iff, implies_true, and_true]
    exact ⟨.int (by decide) (by decide), .real hweight⟩

theorem ofPayload_legible {id : String} {payload : Payload} (h : payload.Legible 124) :
    (Node.ofPayload id payload).Legible 124 := ⟨.null, .nil, nofun, h⟩

theorem sample_legible : sample.Legible := by
  have hheaders : (Payload.http { url := "http://h/", headers := [("a", "1"), ("b", "2")] }).Legible
      124 := List.pairwise_pair.mpr (show "a" < "b" by decide)
  unfold Legible Within sample
  simp only [List.forall_mem_cons, List.not_mem_nil, false_imp_iff, implies_true, and_true]
  exact ⟨ofPayload_legible trivial, look_legible, ofPayload_legible question_legible,
    ofPayload_legible hheaders, ofPayload_legible trivial, ofPayload_legible trivial,
    ofPayload_legible trivial, ofPayload_legible trivial⟩

/-- A workflow of one node to which a value is attached. -/
def remarked (metadata : Json) : Definition where
  id := ""
  nodes := [{ Node.ofPayload "a" .finish with name := "", metadata }]
  edges := []

/-- The text of such a workflow, as its author writes it. -/
def remark (metadata : String) : String :=
  "\x7b\"nodes\": [\x7b\"type\": \"end\", \"metadata\": " ++ metadata ++ ", \"id\": \"a\"\x7d]\x7d"

theorem ofText_text_of_sample : sample.Legible ∧ ofText sample.toJson.text = .ok sample ∧
    ofText (remark "1e0") = .ok (remarked (.num (.real ⟨false, 4503599627370496, -52⟩))) ∧
    ofText (remarked (.num (.real ⟨false, 4503599627370496, -52⟩))).toJson.text =
      .ok (remarked (.num (.real ⟨false, 4503599627370496, -52⟩))) := by
  have hread : ofText (remark "1e0") =
      .ok (remarked (.num (.real ⟨false, 4503599627370496, -52⟩))) := by decide +kernel
  have hexact : (remarked (.num (.real ⟨false, 4503599627370496, -52⟩))).Exact := by
    have hone : (Number.real ⟨false, 4503599627370496, -52⟩).ReadsBack := by decide +kernel
    intro node hnode
    obtain rfl := List.mem_singleton.mp hnode
    refine ⟨fun x hx => ?_, nofun⟩
    obtain rfl := List.mem_singleton.mp hx
    exact hone
  exact ⟨sample_legible,
    (ofText_text_of_written sample).2.1 sample_legible _ sample.toJson_written, hread,
    (ofText_text_of_written _).2.2 _ hread hexact _ (toJson_written _)⟩

/-- A workflow of one node that asks a model at the temperature. -/
def heated (temperature : Option Single) : Definition where
  id := ""
  nodes := [{ Node.ofPayload "a" (.llm { prompt := "", temperature }) with name := "" }]
  edges := []

/-- What is read from texts is not always read back: the number here is printed as
`0.9183197824351557`, which is read as the number below it, and a temperature beyond all numbers is
printed as null. Nor may a node carry more levels than a text. -/
theorem ofText_text_ne :
    (ofText (remark "0.91831978243515571") =
      .ok (remarked (.num (.real ⟨false, 8271489259963844, -53⟩))) ∧
    ofText (remarked (.num (.real ⟨false, 8271489259963844, -53⟩))).toJson.text =
      .ok (remarked (.num (.real ⟨false, 8271489259963843, -53⟩)))) ∧
    (ofText ("\x7b\"nodes\": [\x7b\"type\": \"llm\", \"id\": \"a\", \"prompt\": \"\", " ++
        "\"temperature\": 1e39\x7d]\x7d") = .ok (heated (some (.infinite false))) ∧
    ofText (heated (some (.infinite false))).toJson.text = .ok (heated none)) ∧
    ofText (remarked (nested 125)).toJson.text ≠ .ok (remarked (nested 125)) := by
  simp only [ofText, readWhole, Json.text, String.toList_ofList]
  refine ⟨⟨?_, ?_⟩, ⟨?_, ?_⟩, ?_⟩ <;> decide +kernel

end Definition
end Workflow
