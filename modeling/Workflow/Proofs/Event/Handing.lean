import Workflow.Proofs.Event.Delivery

/-! What subscribers are handed: the events of the history, each once and in their order, and all of
them when nobody is being handed anything. -/
namespace Workflow.Delivery

variable {d : Delivery}

theorem handed_eq_done (hrest : d.AtRest) (id : ℕ) : d.handed id = d.done id := by
  rw [handed, hrest, Option.toList_none, List.append_nil]
  rfl

theorem handed_initial_share (d : Delivery) (id : ℕ) : d.handed id <+: d.share id := by
  cases hcur : d.bus.current? with
  | none =>
    rw [handed_eq_done hcur]
    exact List.prefix_append _ _
  | some p =>
    obtain ⟨u, e⟩ := p
    obtain ⟨events, rest, hb⟩ := current?_eq_some_iff.mp hcur
    have hhanded : d.handed id = if id = u then d.done id ++ [e] else d.done id := by
      rw [handed, hcur]
      exact done_concat d.taken u id e d.bus d.gone d.channels
    rw [hhanded, share, hb, owed_cons]
    split
    · exact (List.prefix_append_right_inj _).mpr (List.prefix_append [e] events)
    · exact List.prefix_append _ _

theorem Fair.batch_eq_nil (h : d.Fair) (hrest : d.AtRest) : d.bus.batch = [] := by
  rcases hb : d.bus.batch with _ | ⟨⟨id, events⟩, rest⟩
  · rfl
  · obtain ⟨e, events, rfl⟩ :=
      List.exists_cons_of_ne_nil (h.batch_ne (id, events) (hb ▸ List.mem_cons_self))
    have hcur := current?_eq_some_iff.mpr ⟨events, rest, hb⟩
    exact absurd (hrest.symm.trans hcur) (fun hn => nomatch hn)

/-- When nobody is being handed anything, nobody has to wait for more. -/
theorem Fair.done_eq (h : d.Fair) (hserved : d.Served) (hrest : d.AtRest) {id : ℕ}
    (hid : id < d.bus.nextId) (hgone : id ∉ d.gone) : d.done id = d.bus.history.entries := by
  have hb := h.batch_eq_nil hrest
  have hshare : d.share id = d.done id := by
    rw [share, hb]
    exact List.append_nil _
  rw [← hshare]
  rcases h.kept id hid hgone with ⟨s, hs, rfl⟩ | ⟨-, heq⟩
  · exact (hserved hb).1 s hs
  · exact heq

theorem seqs_of_initial {history : History} (hn : history.Numbered) {events : List Entry}
    (hp : events <+: history.entries) : events.map (·.seq) = List.range events.length := by
  refine List.ext_getElem (by simp) fun i hi _ => ?_
  rw [List.length_map] at hi
  rw [List.getElem_map, List.getElem_range, hp.getElem hi]
  exact hn i _ (List.getElem?_eq_getElem _)

/-- At any time a subscriber has been handed the first events of the history, each once and in their
order. When nobody is being handed anything, those that were not unsubscribed and did not fail have
been handed all of it; and if the run has ended then, the bus holds no subscriber any more, so that
every channel has got all events up to the end of the run and is closed. -/
theorem handed_in_order (h : Reached d) :
    (∀ id, d.handed id <+: d.bus.history.entries ∧
      (d.handed id).map (·.seq) = List.range (d.handed id).length) ∧
    (d.AtRest →
      (∀ id < d.bus.nextId, id ∉ d.gone → d.handed id = d.bus.history.entries) ∧
      (d.bus.history.closed = true → d.bus.subscribers = [] ∧
        (∃ before last, d.bus.history.entries = before ++ [last] ∧ last.what.endsRun = true) ∧
        ∀ id ∈ d.channels, d.handed id = d.bus.history.entries ∧
          d.bus.isSubscribed id = false)) := by
  obtain ⟨hfair, hserved⟩ := h.fair
  have hinitial : ∀ id, d.handed id <+: d.bus.history.entries := fun id =>
    (handed_initial_share d id).trans (hfair.share_initial id)
  refine ⟨fun id => ⟨hinitial id, seqs_of_initial hfair.lawful.numbered (hinitial id)⟩,
    fun hrest => ?_⟩
  have hwhole : ∀ id < d.bus.nextId, id ∉ d.gone → d.handed id = d.bus.history.entries :=
    fun id hid hgone => (handed_eq_done hrest id).trans (hfair.done_eq hserved hrest hid hgone)
  have hclosed := (hserved (hfair.batch_eq_nil hrest)).2
  refine ⟨hwhole, fun hc => ⟨hclosed hc, hfair.lawful.last hc, fun id hid => ⟨?_, ?_⟩⟩⟩
  · exact hwhole id (hfair.channels_lt id hid) (hfair.channels_kept id hid)
  · rw [Bus.isSubscribed, hclosed hc]
    rfl

/-- A bus with a subscriber, a channel and another subscriber. The first one answers the end of a
node with the end of the run while it is being handed the former, and the last one fails at it. -/
def lively : Delivery where
  bus := {
    history := {
      entries := [⟨0, .nodeEnd "a" .null 0⟩, ⟨1, .workflowEnd .completed none none 0⟩]
      sealedNodes := ["a"]
      closed := true }
    nextId := 3 }
  taken := [(0, ⟨0, .nodeEnd "a" .null 0⟩), (1, ⟨0, .nodeEnd "a" .null 0⟩),
    (2, ⟨0, .nodeEnd "a" .null 0⟩), (0, ⟨1, .workflowEnd .completed none none 0⟩),
    (1, ⟨1, .workflowEnd .completed none none 0⟩)]
  gone := [2]
  channels := [1]

theorem lively_reached : Reached lively := by
  have hnew : Reached {} := .refl
  have hsubscribed := ((hnew.tail .subscribe).tail .openChannel).tail .subscribe
  have hended := hsubscribed.tail (.publish (.nodeEnd "a" .null 0))
  have hanswered := hended.tail (.publish (.workflowEnd .completed none none 0))
  have hfirst := ((hanswered.tail (.finish rfl)).tail (.finish rfl)).tail (.fail rfl (by decide))
  exact (hfirst.tail (.finish rfl)).tail (.finish rfl)

theorem handed_in_order_of_lively :
    Reached lively ∧ lively.AtRest ∧ lively.bus.history.closed = true ∧
    lively.handed 0 = lively.bus.history.entries ∧
    lively.handed 1 = lively.bus.history.entries ∧ lively.bus.isSubscribed 1 = false ∧
    lively.handed 2 = [⟨0, .nodeEnd "a" .null 0⟩] ∧
    lively.handed 2 <+: lively.bus.history.entries := by
  obtain ⟨hinitial, hrest⟩ := handed_in_order lively_reached
  obtain ⟨hwhole, hclosed⟩ := hrest rfl
  obtain ⟨-, -, hchannels⟩ := hclosed rfl
  obtain ⟨hgot, hshut⟩ := hchannels 1 (by decide)
  exact ⟨lively_reached, rfl, rfl, hwhole 0 (by decide) (by decide), hgot, hshut, rfl,
    (hinitial 2).1⟩

end Workflow.Delivery
