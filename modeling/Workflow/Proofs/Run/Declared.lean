import Workflow.Proofs.Run.Replay

/-! What nodes write to the state of a run: a node that comes back changes the values of keys
that it declares and of no others, so a key keeps its value for as long as no node that declares
it has come back. -/
namespace Workflow

/-- The keys that the node may write in a run on the input. -/
def Node.Declares (node : Node) (input : Fields) (key : String) : Prop :=
  match node.type with
  | .start => key ∈ input.map (·.1) ∧
      (node.generateFields = [] ∨ key ∈ node.generateFields.map (·.1))
  | .llm | .tool | .code | .http =>
      if node.generateFields = [] then key = node.id else key ∈ node.generateFields.map (·.1)
  | .condition | .finish | .information => False

namespace Fields

theorem mem_of_written_eq {patch : Fields} {key : String} {value : Json}
    (h : written patch key = some value) : (key, value) ∈ patch := by
  induction patch using List.reverseRecOn with
  | nil => cases h
  | append_singleton patch kv ih =>
    obtain ⟨k, v⟩ := kv
    have hlast : written (patch ++ [(k, v)]) key =
        if k = key then some v else written patch key := by
      rw [written, get?_merge_append]
      exact get?_insert _ k key v
    rw [hlast] at h
    rw [List.mem_append, List.mem_singleton]
    by_cases hk : k = key
    · rw [if_pos hk] at h
      exact Or.inr (by rw [hk, Option.some.inj h])
    · rw [if_neg hk] at h
      exact Or.inl (ih h)

/-- A patch writes every key that it has. -/
theorem written_isSome {patch : Fields} {kv : String × Json} (h : kv ∈ patch) :
    (written patch kv.1).isSome := by
  induction patch using List.reverseRecOn with
  | nil => cases h
  | append_singleton patch last ih =>
    rw [written, get?_merge_append]
    show (get? (insert (merge [] patch) last.1 last.2) kv.1).isSome
    rw [get?_insert]
    rcases List.mem_append.mp h with h | h
    · split
      · rfl
      · exact ih h
    · obtain rfl := List.mem_singleton.mp h
      rw [if_pos rfl]
      rfl

end Fields

/-- Binding a result writes something. -/
theorem Node.bind_ne_nil (node : Node) (result : Json) : node.bind result ≠ [] := by
  have hspread : ¬ node.generateFields.isEmpty → node.spreadResult result ≠ [] := by
    intro hg
    simpa [Node.spreadResult] using hg
  unfold Node.bind
  split
  · exact List.cons_ne_nil _ _
  · rename_i hg
    split
    · dsimp only
      split
      · exact hspread hg
      · rename_i hm
        simpa using hm
    · exact hspread hg

/-- How a node that comes back changes the state of a run on the input. -/
structure Frames (input : Fields) (node : Node) (result : Except NodeFault Outcome)
    (before after : Fields) : Prop where
  /-- Keys that the node does not declare keep their values. -/
  kept : ∀ key, ¬ node.Declares input key → after.get? key = before.get? key
  failed : ∀ fault, result = .error fault → after = before
  directs : node.type = .condition ∨ node.type = .finish ∨ node.type = .information →
    after = before
  /-- A node that calls outside and succeeds writes something. -/
  writes : ∀ outcome, result = .ok outcome → node.type = .llm ∨ node.type = .tool ∨
    node.type = .code ∨ node.type = .http →
    ∃ key value, node.Declares input key ∧ (key, value) ∈ outcome.patch ∧
      after.get? key = some value

namespace Outturn

variable {inv : Invocation} {result : Except NodeFault Outcome} {input : Fields}

/-- What is written is declared, when a start node is given the input of the run. -/
theorem declares (h : Outturn inv result) (hinput : inv.node.type = .start → inv.input = input)
    {key : String} (hk : key ∈ (patch result).map (·.1)) : inv.node.Declares input key := by
  cases h with
  | failed fault ht => cases hk
  | branched ht result => cases hk
  | finished ht => cases hk
  | noted ht => cases hk
  | admitted ht =>
    rw [Node.Declares, ht, ← hinput ht]
    obtain ⟨kv, hkv, rfl⟩ := List.mem_map.mp hk
    by_cases hg : inv.node.generateFields = []
    · have hmem : kv ∈ inv.input := by simpa [patch, Outcome.ofPatch, hg] using hkv
      exact ⟨List.mem_map_of_mem hmem, Or.inl hg⟩
    · have hmem : kv ∈ inv.input.restrict (inv.node.generateFields.map (·.1)) := by
        simpa [patch, Outcome.ofPatch, hg] using hkv
      obtain ⟨hin, hdeclared⟩ := List.mem_filter.mp hmem
      exact ⟨List.mem_map_of_mem hin, Or.inr (List.contains_iff_mem.mp hdeclared)⟩
  | bound ht result =>
    have hmem := Node.mem_bind hk
    rcases ht with h | h | h | h <;> simpa [Node.Declares, h] using hmem

theorem patch_eq_nil (h : Outturn inv result)
    (ht : inv.node.type = .condition ∨ inv.node.type = .finish ∨ inv.node.type = .information) :
    patch result = [] := by
  cases h with
  | failed fault hn => rfl
  | branched hb result => rfl
  | finished hf => rfl
  | noted hi => rfl
  | admitted hs => simp [hs] at ht
  | bound hb result => rcases hb with h | h | h | h <;> simp [h] at ht

/-- Merging what a node writes frames the state. -/
theorem frames (h : Outturn inv result) (hinput : inv.node.type = .start → inv.input = input)
    (state : Fields) : Frames input inv.node result state (state.merge (patch result)) := by
  refine ⟨fun key hkey => ?_, ?_, fun ht => ?_, ?_⟩
  · have hnone : Fields.written (patch result) key = none := by
      rw [← Option.not_isSome_iff_eq_none]
      exact fun hsome => hkey (h.declares hinput (Fields.mem_of_written hsome))
    rw [Fields.get?_merge, hnone, Option.none_or]
  · rintro fault rfl
    rfl
  · rw [h.patch_eq_nil ht]
    rfl
  · rintro outcome rfl ht
    have hne : outcome.patch ≠ [] := by
      cases h with
      | bound hb result => exact inv.node.bind_ne_nil result
      | admitted hs | branched hs | finished hs | noted hs => simp [hs] at ht
    obtain ⟨kv, hkv⟩ := List.exists_mem_of_ne_nil _ hne
    obtain ⟨value, hvalue⟩ := Option.isSome_iff_exists.mp (Fields.written_isSome hkv)
    refine ⟨kv.1, value, h.declares hinput (List.mem_map_of_mem hkv),
      Fields.mem_of_written_eq hvalue, ?_⟩
    show (state.merge outcome.patch).get? kv.1 = some value
    rw [Fields.get?_merge, hvalue, Option.some_or]

end Outturn

/-- A result, also one that came from outside and not from the executor, frames the state. -/
theorem Delivers.frames {inv : Invocation} {result : Except NodeFault Outcome} {input : Fields}
    (h : Delivers inv result) (hinput : inv.node.type = .start → inv.input = input)
    (state : Fields) : Frames input inv.node result state (state.merge (patch result)) := by
  rcases h with h | ⟨fault, rfl⟩
  · exact h.outturn.frames hinput state
  · exact ⟨fun _ _ => rfl, fun _ _ => rfl, fun _ => rfl, fun _ ho => by cases ho⟩

namespace Course

variable {g : Graph} {input : Fields} {c d : Course}

/-- A start node is given the input of the run. -/
theorem Reached.start_input (hg : g.Valid) (h : Reached Delivers g input c) {inv : Invocation}
    (hi : inv ∈ c.given) (ht : inv.node.type = .start) : inv.input = input := by
  obtain ⟨before, hsaw⟩ := (Reached.trail hg h).saw inv hi
  rw [hsaw.input_eq, Node.view, if_pos ht, (Reached.sound hg h).input_eq]

/-- Taking in what a node came back with changes the values of keys that it declares, and of no
others: in nodes that call outside, of the keys they generate, or of their id when there are none;
in the start node, of keys of the input; in no other node, and in none that failed, of any. Nodes
that call outside always write something when they succeed. -/
theorem complete_frames {w : Definition} {inv : Invocation} {result : Except NodeFault Outcome}
    (elapsed : ℕ) (hw : Graph.compile w = .ok g) (hc : Reached Delivers g input c)
    (hi : inv ∈ c.given) (ha : Delivers inv result) :
    Frames input inv.node result c.run.state
      (c.complete inv.node.id result elapsed).run.state := by
  have hg := Graph.compile_valid hw
  obtain ⟨arcs, resolved, ready, hrun⟩ := Run.complete_fst_eq c.run inv.node.id result elapsed
  have hstate : (c.complete inv.node.id result elapsed).run.state =
      c.run.state.merge (patch result) := congrArg Run.state hrun
  rw [hstate]
  exact ha.frames (hc.start_input hg hi) c.run.state

/-! ### Along a run -/

/-- A step keeps the value of a key if no node that declares it comes back. -/
theorem Step.get?_state_eq (hg : g.Valid) (hc : Reached Delivers g input c)
    (hs : Step Delivers c d) {key : String}
    (hkey : ∀ inv ∈ d.given, inv.node.Declares input key → d.Returned inv.node.id →
      c.Returned inv.node.id) : d.run.state.get? key = c.run.state.get? key := by
  have hsound := Reached.sound hg hc
  cases hs.account hsound (Reached.told hg hc) with
  | starts node hgo hn hnode hgiven hwhats hstate hending hresults => rw [hstate]
  | passes hgiven hwhats hstate hcancelled hending hresults => rw [hstate]
  | returns inv result elapsed hgo hi ha hgiven hwhats hstate hending hresults =>
    rw [hstate]
    refine (ha.frames (hc.start_input hg hi) c.run.state).kept key fun hdeclares => ?_
    -- The node that comes back has not come back before.
    have hnodup := (Reached.sound hg (hc.tail hs)).results_nodup
    rw [hresults, List.map_append, List.nodup_append] at hnodup
    have hback : d.Returned inv.node.id := ⟨result, by rw [hresults]; simp⟩
    obtain ⟨earlier, hearlier⟩ := hkey inv (hgiven ▸ hi) hdeclares hback
    exact hnodup.2.2 _ (List.mem_map_of_mem (f := (·.1)) hearlier) _
      (List.mem_singleton_self _) rfl

theorem Returned.later {v : String} (hr : c.Returned v) (hl : Later Delivers c d) :
    d.Returned v := by
  induction hl with
  | refl => exact hr
  | tail hb hs ih =>
    obtain ⟨result, hresult⟩ := ih
    exact ⟨result, hs.records.2.subset hresult⟩

/-- From one point of a run to a later one, a key keeps its value if no node that declares it comes
back in between. -/
theorem Later.get?_state_eq (hg : g.Valid) (hc : Reached Delivers g input c)
    (hl : Later Delivers c d) {key : String}
    (hkey : ∀ inv ∈ d.given, inv.node.Declares input key → d.Returned inv.node.id →
      c.Returned inv.node.id) : d.run.state.get? key = c.run.state.get? key := by
  induction hl with
  | refl => rfl
  | @tail b d hb hs ih =>
    obtain ⟨hgiven, hresults⟩ := hs.records
    have hlast := hs.get?_state_eq hg (Relation.ReflTransGen.trans hc hb)
      fun inv hi hd hr => (hkey inv hi hd hr).later hb
    refine hlast.trans (ih fun inv hi hd hr => ?_)
    obtain ⟨result, hresult⟩ := hr
    exact hkey inv (hgiven.subset hi) hd ⟨result, hresults.subset hresult⟩

/-- Every key of the state is declared by a node that has come back. -/
theorem Reached.declared_of_state (hg : g.Valid) (h : Reached Delivers g input c) {key : String}
    (hkey : (c.run.state.get? key).isSome) :
    ∃ inv ∈ c.given, inv.node.Declares input key ∧ c.Returned inv.node.id := by
  by_contra hnone
  have heq : c.run.state.get? key = (begin g input).run.state.get? key :=
    Later.get?_state_eq hg .refl h fun inv hi hd hr => absurd ⟨inv, hi, hd, hr⟩ hnone
  rw [heq] at hkey
  cases hkey

/-! ### A tool that answers more than its node declares -/

/-- A tool from whose answer only the title is wanted. -/
def digestWorkflow : Definition where
  id := "digest"
  nodes := [.ofPayload "a" (.start []),
    (Node.ofPayload "b" (.tool "b" .null)).withOutput "title" .text]
  edges := [.between "a" "b"]

def digest : Graph where
  workflowId := "digest"
  start := "a"
  nodes := digestWorkflow.nodes
  arcs := [⟨"a->b", "a", "b", none⟩]
  standalone := []
  conditions := []
  topoOrder := ["a", "b"]

theorem compile_digestWorkflow : Graph.compile digestWorkflow = .ok digest := by decide +kernel

def digestInput : Fields := [("url", .str "here")]

/-- The tool is in flight. -/
def digestAsked : Course :=
  ((begin digest digestInput).dispatch.complete "a" (.ok (.ofPatch digestInput)) 0).dispatch

def digestInvocation : Invocation :=
  ⟨(Node.ofPayload "b" (.tool "b" .null)).withOutput "title" .text, digestInput, none⟩

/-- What the node makes of an answer that has a title and a link. -/
def digestResult : Except NodeFault Outcome :=
  .ok (.ofPatch (digestInvocation.node.bind (.ofPairs [("title", .str "t"), ("url", .str "u")])))

theorem digestAsked_reached : Reached Delivers digest digestInput digestAsked := by
  have ha := (show Reached Delivers digest digestInput _ from .refl).dispatch "a" rfl
    (by decide +kernel)
  have hstart : Delivers ⟨.ofPayload "a" (.start []), digestInput, none⟩
      (.ok (.ofPatch digestInput)) := Or.inl ⟨{}, .done⟩
  have ha' := ha.complete ⟨.ofPayload "a" (.start []), digestInput, none⟩ _ 0 rfl
    (by decide +kernel) (by decide +kernel) (by decide +kernel) hstart
  exact ha'.dispatch "b" (by decide +kernel) (by decide +kernel)

/-- The link in the answer does not replace the one in the state. -/
theorem complete_frames_of_digest :
    Graph.compile digestWorkflow = .ok digest ∧ Reached Delivers digest digestInput digestAsked ∧
    digestInvocation ∈ digestAsked.given ∧ Delivers digestInvocation digestResult ∧
    (digestAsked.complete "b" digestResult 1).run.state =
      [("title", .str "t"), ("url", .str "here")] ∧
    Frames digestInput digestInvocation.node digestResult digestAsked.run.state
      (digestAsked.complete "b" digestResult 1).run.state := by
  have hgiven : digestInvocation ∈ digestAsked.given := by decide +kernel
  have hdelivers : Delivers digestInvocation digestResult :=
    Or.inl ⟨{ tools := true }, .tool (.ok _) .done⟩
  exact ⟨compile_digestWorkflow, digestAsked_reached, hgiven, hdelivers, by decide +kernel,
    complete_frames 1 compile_digestWorkflow digestAsked_reached hgiven hdelivers⟩

end Course
end Workflow
