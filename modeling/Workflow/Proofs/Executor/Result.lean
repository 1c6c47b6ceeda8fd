import Workflow.Proofs.Json.Fields
import Workflow.Proofs.Run.Step
import Workflow.Rehearsal.Stage

/-! The results that executors can come to, whatever the answers to their calls are: what they
write is what their nodes declare, only end nodes finish the run, and information nodes always
succeed and write nothing. -/
namespace Workflow

/-- The keys that the node can write, apart from those of the input of a start node. -/
def Node.Writes (node : Node) (key : String) : Prop :=
  match node.type with
  | .condition | .finish | .information => False
  | _ => if node.generateFields = [] then key = node.id else key ∈ node.generateFields.map (·.1)

/-- The keys that the node reads. -/
def Node.Reads (node : Node) (key : String) : Prop :=
  node.type ≠ .information ∧ (node.usageFields = [] ∨ key ∈ node.usageFields)

theorem Node.mem_bind {node : Node} {result : Json} {key : String}
    (h : key ∈ (node.bind result).map (·.1)) :
    if node.generateFields = [] then key = node.id else key ∈ node.generateFields.map (·.1) := by
  have hspread : key ∈ (node.spreadResult result).map (·.1) →
      key ∈ node.generateFields.map (·.1) := by
    simp [Node.spreadResult, Function.comp_def]
  unfold Node.bind at h
  by_cases hg : node.generateFields = []
  · simpa [hg] using h
  · rw [if_neg (by simpa using hg)] at h
    rw [if_neg hg]
    split at h
    · dsimp only at h
      split at h
      · exact hspread h
      · obtain ⟨kv, hkv, rfl⟩ := List.mem_map.mp h
        obtain ⟨⟨k, kind⟩, hk, hfound⟩ := List.mem_filterMap.mp hkv
        obtain ⟨v, -, rfl⟩ := Option.map_eq_some_iff.mp hfound
        exact List.mem_map_of_mem (f := (·.1)) hk
    · exact hspread h

namespace Work

/-- Whether the work makes a call next. -/
def calls : Work → Bool
  | .tool _ _ _ | .code _ _ | .http _ _ | .chat _ _ => true
  | _ => false

/-- The results that work can come to. Every call may have any answer, or break down. -/
inductive Yields : Work → Except NodeFault Outcome → Prop
  | done {result : Except NodeFault Outcome} : Yields (.done result) result
  | breakdown : Yields .breakdown Stage.brokenDown
  | broken {work : Work} (hc : work.calls = true) : Yields work Stage.brokenDown
  | wait {ms : ℕ} {rest : Work} {result : Except NodeFault Outcome} (h : Yields rest result) :
    Yields (.wait ms rest) result
  | emit {data : Json} {rest : Work} {result : Except NodeFault Outcome}
    (h : Yields rest result) : Yields (.emit data rest) result
  | emitLater {ms : ℕ} {data : Json} {rest : Work} {result : Except NodeFault Outcome}
    (h : Yields rest result) : Yields (.emitLater ms data rest) result
  | tool {name : String} {input : Json} {rest : Except CallError Json → Work}
    {result : Except NodeFault Outcome} (answer : Except CallError Json)
    (h : Yields (rest answer) result) : Yields (.tool name input rest) result
  | code {request : CodeRequest} {rest : Except CallError CodeOutput → Work}
    {result : Except NodeFault Outcome} (answer : Except CallError CodeOutput)
    (h : Yields (rest answer) result) : Yields (.code request rest) result
  | http {request : HttpRequest} {rest : Except CallError HttpResponse → Work}
    {result : Except NodeFault Outcome} (answer : Except CallError HttpResponse)
    (h : Yields (rest answer) result) : Yields (.http request rest) result
  | chat {request : ChatRequest} {rest : ChatAnswer → Work} {result : Except NodeFault Outcome}
    (answer : ChatAnswer) (h : Yields (rest answer) result) : Yields (.chat request rest) result

/-- All results that the work can come to are as `P` says. -/
def Keeps (P : Except NodeFault Outcome → Prop) (work : Work) : Prop :=
  ∀ result, Yields work result → P result

namespace Keeps

variable {P : Except NodeFault Outcome → Prop}

theorem done {result : Except NodeFault Outcome} (h : P result) : Keeps P (.done result) := by
  intro r hr
  cases hr with
  | done => exact h
  | broken hc => cases hc

theorem breakdown (hb : P Stage.brokenDown) : Keeps P .breakdown := by
  intro r hr
  cases hr with
  | breakdown => exact hb
  | broken hc => cases hc

theorem never : Keeps P .never := by
  intro r hr
  cases hr with
  | broken hc => cases hc

theorem wait {ms : ℕ} {rest : Work} (h : Keeps P rest) : Keeps P (.wait ms rest) := by
  intro r hr
  cases hr with
  | wait hr => exact h r hr
  | broken hc => cases hc

theorem emit {data : Json} {rest : Work} (h : Keeps P rest) : Keeps P (.emit data rest) := by
  intro r hr
  cases hr with
  | emit hr => exact h r hr
  | broken hc => cases hc

theorem tool (hb : P Stage.brokenDown) {name : String} {input : Json}
    {rest : Except CallError Json → Work} (h : ∀ answer, Keeps P (rest answer)) :
    Keeps P (.tool name input rest) := by
  intro r hr
  cases hr with
  | tool answer hr => exact h answer r hr
  | broken hc => exact hb

theorem code (hb : P Stage.brokenDown) {request : CodeRequest}
    {rest : Except CallError CodeOutput → Work} (h : ∀ answer, Keeps P (rest answer)) :
    Keeps P (.code request rest) := by
  intro r hr
  cases hr with
  | code answer hr => exact h answer r hr
  | broken hc => exact hb

theorem http (hb : P Stage.brokenDown) {request : HttpRequest}
    {rest : Except CallError HttpResponse → Work} (h : ∀ answer, Keeps P (rest answer)) :
    Keeps P (.http request rest) := by
  intro r hr
  cases hr with
  | http answer hr => exact h answer r hr
  | broken hc => exact hb

theorem chat (hb : P Stage.brokenDown) {request : ChatRequest} {rest : ChatAnswer → Work}
    (h : ∀ answer, Keeps P (rest answer)) : Keeps P (.chat request rest) := by
  intro r hr
  cases hr with
  | chat answer hr => exact h answer r hr
  | broken hc => exact hb

/-- Waiting for an answer changes nothing in what may follow it. -/
theorem after (hb : P Stage.brokenDown) {α : Type} {rest : α → Work}
    (h : ∀ a, Keeps P (rest a)) (answer : Timed α) : Keeps P (.after answer rest) := by
  obtain ⟨waits, ending⟩ := answer
  unfold Work.after
  induction waits with
  | nil =>
    cases ending with
    | value a => exact h a
    | never => exact never
    | breakdown => exact breakdown hb
  | cons ms waits ih => exact wait ih

theorem orFail (hf : ∀ fault, P (.error fault)) {α : Type} {rest : α → Work}
    (h : ∀ a, Keeps P (rest a)) (answer : Except CallError α) : Keeps P (.orFail rest answer) := by
  cases answer with
  | ok a => exact h a
  | error e => exact done (hf _)

end Keeps
end Work

/-! ### What executors come to -/

/-- What a node comes to when it is executed, by its type. -/
inductive Outturn (inv : Invocation) : Except NodeFault Outcome → Prop
  | failed (fault : NodeFault) (ht : inv.node.type ≠ .information) : Outturn inv (.error fault)
  /-- A start node writes the part of the input that it declares. -/
  | admitted (ht : inv.node.type = .start) :
    Outturn inv (.ok (.ofPatch (if inv.node.generateFields.isEmpty then inv.input
      else inv.input.restrict (inv.node.generateFields.map (·.1)))))
  /-- A node that calls outside writes what it has been answered under the keys it declares. -/
  | bound (ht : inv.node.type = .llm ∨ inv.node.type = .tool ∨ inv.node.type = .code ∨
      inv.node.type = .http) (result : Json) : Outturn inv (.ok (.ofPatch (inv.node.bind result)))
  | branched (ht : inv.node.type = .condition) (result : Bool) :
    Outturn inv (.ok ⟨[], .ofPairs [("result", .bool result)], .branch result⟩)
  | finished (ht : inv.node.type = .finish) :
    Outturn inv (.ok ⟨[], Executor.finalOutput inv, .finish (Executor.finalOutput inv)⟩)
  | noted (ht : inv.node.type = .information) : Outturn inv (.ok (.ofPatch []))

namespace Executor

variable {inv : Invocation}

/-- Nodes that call outside, whatever comes back. -/
theorem listen_keeps {P : Except NodeFault Outcome → Prop} (hf : ∀ fault, P (.error fault))
    {node : Node} (hb : ∀ result, P (.ok (.ofPatch (node.bind result)))) {format : OutputFormat}
    (deltas : List (Timed (Except CallError Delta))) (text : String) :
    Work.Keeps P (listen node format text deltas) := by
  induction deltas generalizing text with
  | nil =>
    rw [listen]
    split
    · exact Work.Keeps.done (hb _)
    · exact Work.Keeps.done (hf _)
  | cons item rest ih =>
    rw [listen]
    refine Work.Keeps.after (hf _) (fun delta => ?_) item
    split
    · exact Work.Keeps.done (hf _)
    · exact (ih _).emit
    · exact ih _

section Outturn

theorem start_outturn (ht : inv.node.type = .start) : Work.Keeps (Outturn inv) (start inv) := by
  have hn : inv.node.type ≠ .information := by simp [ht]
  unfold start
  dsimp only
  split
  · exact Work.Keeps.done (.failed _ hn)
  · split
    · exact Work.Keeps.done (.failed _ hn)
    · exact Work.Keeps.done (.admitted ht)

theorem condition_outturn (ht : inv.node.type = .condition) :
    Work.Keeps (Outturn inv) (condition inv) := by
  unfold condition
  split
  · exact Work.Keeps.done (.failed _ (by simp [ht]))
  · exact Work.Keeps.done (.branched ht _)

variable (hn : inv.node.type = .llm ∨ inv.node.type = .tool ∨ inv.node.type = .code ∨
  inv.node.type = .http)

include hn

theorem failure_outturn (fault : NodeFault) : Outturn inv (.error fault) :=
  .failed fault (by rcases hn with h | h | h | h <;> simp [h])

theorem chat_outturn (model : ModelSettings) : Work.Keeps (Outturn inv) (chat model inv) := by
  have hf := failure_outturn hn
  unfold chat
  split
  · exact Work.Keeps.chat (hf _) fun answer => Work.Keeps.orFail hf
      (fun deltas => listen_keeps hf (.bound hn) deltas "") answer
  · exact Work.Keeps.done (hf _)

theorem tool_outturn : Work.Keeps (Outturn inv) (tool inv) := by
  have hf := failure_outturn hn
  unfold tool
  split
  · exact Work.Keeps.tool (hf _) fun answer => Work.Keeps.orFail hf
      (fun result => Work.Keeps.done (.bound hn result)) answer
  · exact Work.Keeps.done (hf _)

theorem code_outturn : Work.Keeps (Outturn inv) (code inv) := by
  have hf := failure_outturn hn
  unfold code
  split
  · refine Work.Keeps.code (hf _) fun answer => Work.Keeps.orFail hf (fun output => ?_) answer
    split
    · exact Work.Keeps.done (hf _)
    · exact Work.Keeps.done (.bound hn _)
  · exact Work.Keeps.done (hf _)

theorem http_outturn : Work.Keeps (Outturn inv) (http inv) := by
  have hf := failure_outturn hn
  unfold http
  split
  · refine Work.Keeps.http (hf _) fun answer => Work.Keeps.orFail hf (fun response => ?_) answer
    split
    · exact Work.Keeps.done (.bound hn _)
    · exact Work.Keeps.done (hf _)
  · exact Work.Keeps.done (hf _)

end Outturn

/-- Whatever the executor of its type comes to, it is what nodes of that type come to. -/
theorem outturn {equipment : Equipment} {executor : Executor}
    (h : equipment.executor? inv.node.type = some executor) :
    Work.Keeps (Outturn inv) (executor inv) := by
  cases ht : inv.node.type with
  | start =>
    rw [ht] at h
    cases h
    exact start_outturn ht
  | finish =>
    rw [ht] at h
    cases h
    exact Work.Keeps.done (.finished ht)
  | condition =>
    rw [ht] at h
    cases h
    exact condition_outturn ht
  | information =>
    rw [ht] at h
    cases h
    exact Work.Keeps.done (.noted ht)
  | llm =>
    rw [ht] at h
    obtain ⟨model, -, rfl⟩ := Option.map_eq_some_iff.mp h
    exact chat_outturn (by simp [ht]) model
  | tool =>
    obtain ⟨-, rfl⟩ : equipment.tools = true ∧ Executor.tool = executor := by
      simpa [Equipment.executor?, ht] using h
    exact tool_outturn (by simp [ht])
  | code =>
    obtain ⟨-, rfl⟩ : equipment.code = true ∧ Executor.code = executor := by
      simpa [Equipment.executor?, ht] using h
    exact code_outturn (by simp [ht])
  | http =>
    obtain ⟨-, rfl⟩ : equipment.http = true ∧ Executor.http = executor := by
      simpa [Equipment.executor?, ht] using h
    exact http_outturn (by simp [ht])

end Executor

/-- A result that the executor for the type of the node can come to; without one the node fails. -/
def Executes (inv : Invocation) (result : Except NodeFault Outcome) : Prop :=
  ∃ equipment : Equipment, match equipment.executor? inv.node.type with
    | some executor => (executor inv).Yields result
    | none => (Work.unequipped inv.node.type).Yields result

theorem Executes.outturn {inv : Invocation} {result : Except NodeFault Outcome}
    (h : Executes inv result) : Outturn inv result := by
  obtain ⟨equipment, h⟩ := h
  cases he : equipment.executor? inv.node.type with
  | some executor =>
    rw [he] at h
    exact Executor.outturn he result h
  | none =>
    rw [he] at h
    have hn : inv.node.type ≠ .information := by
      intro ht
      rw [ht] at he
      cases he
    exact Work.Keeps.done (Outturn.failed _ hn) result h

/-- What a node in flight can come back with: what its executor comes to, or a failure from outside,
because its deadline has passed, it was cancelled, or its task was lost. -/
def Delivers (inv : Invocation) (result : Except NodeFault Outcome) : Prop :=
  Executes inv result ∨ ∃ fault, result = .error fault

theorem Delivers.outturn {inv : Invocation} {outcome : Outcome} (h : Delivers inv (.ok outcome)) :
    Outturn inv (.ok outcome) := by
  rcases h with h | ⟨fault, hf⟩
  · exact h.outturn
  · cases hf

/-! ### What nodes keep to -/

/-- A result that keeps to what a node of the given type may do. -/
structure Conforms (node : Node) (result : Except NodeFault Outcome) : Prop where
  writes : ∀ key, (Fields.written (patch result) key).isSome → node.type = .start ∨ node.Writes key
  finishes : ∀ outcome output, result = .ok outcome → outcome.route = .finish output →
    node.type = .finish
  silent : node.type = .information → result = .ok (.ofPatch [])

namespace Outturn

variable {inv : Invocation} {result : Except NodeFault Outcome}

/-- Binding a result writes what the node declares. -/
theorem writes (h : Outturn inv result) (key : String)
    (hk : (Fields.written (patch result) key).isSome) :
    inv.node.type = .start ∨ inv.node.Writes key := by
  cases h with
  | admitted ht => exact Or.inl ht
  | bound ht result =>
    have hmem := Node.mem_bind (Fields.mem_of_written hk)
    rcases ht with h | h | h | h <;> exact Or.inr (by simpa [Node.Writes, h] using hmem)
  | _ => exact absurd hk Bool.false_ne_true

/-- Only end nodes finish the run, with the output that they show. -/
theorem finish_iff {outcome : Outcome} (h : Outturn inv (.ok outcome)) (output : Json) :
    outcome.route = .finish output ↔ inv.node.type = .finish ∧ output = outcome.output := by
  cases h with
  | finished ht => exact ⟨fun hr => ⟨ht, (Route.finish.inj hr).symm⟩, fun hr => hr.2 ▸ rfl⟩
  | bound ht result =>
    refine iff_of_false Route.noConfusion fun hf => ?_
    rcases ht with h | h | h | h <;> exact NodeType.noConfusion (h.symm.trans hf.1)
  | admitted ht | branched ht | noted ht =>
    exact iff_of_false Route.noConfusion fun hf => NodeType.noConfusion (ht.symm.trans hf.1)

theorem conforms (h : Outturn inv result) : Conforms inv.node result := by
  refine ⟨h.writes, ?_, fun hi => ?_⟩
  · rintro outcome output rfl hr
    exact ((h.finish_iff output).mp hr).1
  · cases h with
    | failed fault ht => exact absurd hi ht
    | bound ht result =>
      rcases ht with h | h | h | h <;> exact NodeType.noConfusion (h.symm.trans hi)
    | noted ht => rfl
    | admitted ht | branched ht | finished ht => exact NodeType.noConfusion (ht.symm.trans hi)

end Outturn

theorem Executes.conforms {inv : Invocation} {result : Except NodeFault Outcome}
    (h : Executes inv result) : Conforms inv.node result := h.outturn.conforms

end Workflow
