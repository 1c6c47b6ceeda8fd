import Workflow.Proofs.Executor.Acts

/-! What a node that asks a language model publishes, and what it comes to, by what it hears. -/
namespace Workflow

/-- How a stream of deltas closes. -/
inductive Closing where
  /-- The stream ends. -/
  | whole
  | failed (e : CallError)
  /-- Nothing more comes, and no end. -/
  | silent
  /-- The one who sends the deltas breaks down. -/
  | breakdown
  deriving DecidableEq, Repr

/-- What is heard of a model until the stream of its answer ends or fails. -/
structure Transcript where
  deltas : List Delta
  closing : Closing
  deriving DecidableEq, Repr

/-- The text that a delta carries. -/
def Delta.text? : Delta → Option String
  | text chunk => some chunk
  | _ => none

namespace Transcript

/-- What comes after the first error of a stream is not heard. -/
def ofStream : List (Timed (Except CallError Delta)) → Transcript
  | [] => ⟨[], .whole⟩
  | item :: rest => match item.ending with
    | .value (.ok delta) => ⟨delta :: (ofStream rest).deltas, (ofStream rest).closing⟩
    | .value (.error e) => ⟨[], .failed e⟩
    | .never => ⟨[], .silent⟩
    | .breakdown => ⟨[], .breakdown⟩

def ofAnswer : Ending ChatAnswer → Transcript
  | .value (.ok stream) => ofStream stream
  | .value (.error e) => ⟨[], .failed e⟩
  | .never => ⟨[], .silent⟩
  | .breakdown => ⟨[], .breakdown⟩

def texts (t : Transcript) : List String := t.deltas.filterMap Delta.text?

/-- The parts of an output that pass the texts on, one by one. -/
def outputs (t : Transcript) : List Json :=
  t.texts.map fun chunk => .ofPairs [("delta", .str chunk)]

/-- What a node comes to that has heard some text before; it comes to nothing if it hears no end. -/
def result? (node : Node) (format : OutputFormat) (before : String) (t : Transcript) :
    Option (Except NodeFault Outcome) :=
  match t.closing with
  | .whole => some ((Executor.chatResult format (before ++ String.join t.texts)).map fun result =>
      .ofPatch (node.bind result))
  | .failed e => some (.error (.ofCall e))
  | .silent => none
  | .breakdown => some Stage.brokenDown

/-- It makes no difference whether a text was heard before or comes first. -/
theorem result?_text (node : Node) (format : OutputFormat) (before chunk : String)
    (t : Transcript) : result? node format before ⟨.text chunk :: t.deltas, t.closing⟩ =
      result? node format (before ++ chunk) t := by
  have htexts : texts ⟨.text chunk :: t.deltas, t.closing⟩ = chunk :: t.texts := rfl
  simp only [result?, htexts, String.join_cons, String.append_assoc]

end Transcript

namespace Executor

/-- Listening is plain work: every text is published as it comes, and the texts that came make up
the result. -/
theorem listen_law (node : Node) (format : OutputFormat)
    (stream : List (Timed (Except CallError Delta))) (before : String) :
    (listen node format before stream).Plain ∧
    (listen node format before stream).parts = (Transcript.ofStream stream).outputs ∧
    (listen node format before stream).result? =
      (Transcript.ofStream stream).result? node format before := by
  induction stream generalizing before with
  | nil =>
    have hjoin : before ++ String.join [] = before := String.append_empty
    simp only [listen, Transcript.ofStream, Transcript.outputs, Transcript.texts,
      Transcript.result?, List.filterMap_nil, List.map_nil, hjoin]
    cases chatResult format before <;> exact ⟨trivial, rfl, rfl⟩
  | cons item rest ih =>
    obtain ⟨waits, ending⟩ := item
    rw [listen, Work.plain_after, Work.parts_after, Work.result?_after]
    cases ending with
    | never => exact ⟨trivial, rfl, rfl⟩
    | breakdown => exact ⟨trivial, rfl, rfl⟩
    | value delta =>
      cases delta with
      | error e => exact ⟨trivial, rfl, rfl⟩
      | ok delta =>
        cases delta with
        | text chunk =>
          obtain ⟨hplain, hparts, hresult⟩ := ih (before ++ chunk)
          exact ⟨hplain, congrArg _ hparts,
            hresult.trans (Transcript.result?_text node format before chunk _).symm⟩
        | stop | usage => exact ih before

/-- The same holds of all that follows the call of a model, whatever becomes of it. -/
theorem answer_law (node : Node) (format : OutputFormat) (answer : Timed ChatAnswer) :
    (Work.after answer (.orFail (listen node format ""))).Plain ∧
    (Work.after answer (.orFail (listen node format ""))).parts =
      (Transcript.ofAnswer answer.ending).outputs ∧
    (Work.after answer (.orFail (listen node format ""))).result? =
      (Transcript.ofAnswer answer.ending).result? node format "" := by
  rw [Work.plain_after, Work.parts_after, Work.result?_after]
  obtain ⟨waits, ending⟩ := answer
  cases ending with
  | never => exact ⟨trivial, rfl, rfl⟩
  | breakdown => exact ⟨trivial, rfl, rfl⟩
  | value answer =>
    cases answer with
    | error e => exact ⟨trivial, rfl, rfl⟩
    | ok stream => exact listen_law node format stream ""

/-- What a node that asks a model does: it makes its call, and then publishes the texts that it
hears, up to the result that it comes to. -/
theorem chat_runs {settings : ModelSettings} {inv : Invocation} {config : LlmConfig}
    (hc : inv.node.payload = .llm config) {acts : List Act} {last : Work}
    (h : (chat settings inv).Runs acts last) :
    acts = [] ∧ last.result? = none ∨ ∃ ending later, acts = .chat ⟨modelFor settings config,
        conversation config inv.node.usageFields inv.input⟩ ending :: later ∧ Act.Tidy acts ∧
      last.Plain ∧ (Transcript.ofAnswer ending).outputs = Act.parts acts ++ last.parts ∧
      (Transcript.ofAnswer ending).result? inv.node config.outputSchema "" = last.result? := by
  unfold chat at h
  rw [hc] at h
  rcases h.of_chat with ⟨hnil, rfl⟩ | ⟨waits, ending, later, rfl, hruns⟩
  · exact Or.inl ⟨hnil, rfl⟩
  · obtain ⟨hplain, hparts, hresult⟩ :=
      answer_law inv.node config.outputSchema ⟨waits, ending⟩
    obtain ⟨hleft, hrest, hlast, htidy⟩ := hplain.runs hruns
    refine Or.inr ⟨ending, later, rfl, fun data hd => ?_, hleft, hparts.symm.trans hrest,
      hresult.symm.trans hlast⟩
    cases hd with
    | tail _ hd => exact htidy data hd

end Executor
end Workflow
