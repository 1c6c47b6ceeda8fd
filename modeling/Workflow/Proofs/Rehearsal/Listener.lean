import Workflow.Rehearsal.Listener
import Workflow.Proofs.Event.Handing

/-! Buses with listeners: whatever their scripts say, what happens to the bus are the steps of a bus
in use, and a channel keeps what its subscription was handed since it was last drained. -/
namespace Workflow

namespace Bus

theorem gather_nextId (b : Bus) : b.gather.nextId = b.nextId := by
  unfold gather
  split
  · split <;> rfl
  · rfl

theorem deliver_nextId (b : Bus) : b.deliver.nextId = b.nextId := by
  unfold deliver
  split
  · exact gather_nextId b
  · rfl

theorem publish_nextId (b : Bus) (what : Happening) : (b.publish what).1.nextId = b.nextId := by
  unfold publish
  split
  · exact deliver_nextId _
  · rfl

theorem subscribe_nextId (b : Bus) : b.subscribe.1.nextId = b.nextId + 1 := deliver_nextId _

theorem advance_nextId {b : Bus} {p : ℕ × Entry} (h : b.current? = some p) (failed : Bool) :
    (b.advance failed).nextId = b.nextId := by
  obtain ⟨events, rest, hb⟩ := Delivery.current?_eq_some_iff.mp h
  cases failed with
  | false => rw [Delivery.advance_false hb, deliver_nextId]
  | true =>
    rw [Delivery.advance_true hb, deliver_nextId]
    rfl

theorem deliver_of_current? {b : Bus} {p : ℕ × Entry} (h : b.current? = some p) :
    b.deliver = b := by
  obtain ⟨events, rest, hb⟩ := Delivery.current?_eq_some_iff.mp h
  rw [deliver, hb]
  rfl

/-- What is published while a subscriber is being handed an event is left for later. -/
theorem publish_current? {b : Bus} {p : ℕ × Entry} (h : b.current? = some p) (what : Happening) :
    (b.publish what).1.current? = some p := by
  unfold publish
  split
  · have hwait : Bus.deliver { b with history := b.history.append what } =
        { b with history := b.history.append what } := deliver_of_current? h
    exact (congrArg current? hwait).trans h
  · exact h

end Bus

theorem Delivery.Step.nextId_le {d d' : Delivery} (hs : Step d d') :
    d.bus.nextId ≤ d'.bus.nextId := by
  cases hs with
  | publish what => exact Nat.le_of_eq (Bus.publish_nextId _ what).symm
  | subscribe => exact Bus.subscribe_nextId _ ▸ Nat.le_succ _
  | openChannel => exact Bus.subscribe_nextId _ ▸ Nat.le_succ _
  | unsubscribe => exact Nat.le_refl _
  | finish hcur => exact Nat.le_of_eq (Bus.advance_nextId hcur false).symm
  | fail hcur => exact Nat.le_of_eq (Bus.advance_nextId hcur true).symm

namespace Audience

/-- An audience has its bus in use. -/
structure Follows (a : Audience) (d : Delivery) : Prop where
  reached : d.Reached
  bus_eq : d.bus = a.bus
  listeners_apart : ∀ p ∈ a.listeners, p.1 < d.bus.nextId ∧ p.1 ∉ d.channels
  tickets_held : ∀ t ∈ a.tickets, t.2 ∈ a.listeners.map (·.1)
  channels_filled : ∀ c ∈ a.channels, c.2.1 ∈ d.channels ∧ c.2.2 <:+ (d.done c.2.1).map (·.seq)

def Plays (a : Audience) : Prop := ∃ d, a.Follows d

variable {a : Audience} {d : Delivery}

/-- Between two steps nobody puts anything into a channel. -/
theorem Follows.step (h : a.Follows d) {d' : Delivery} (hs : Delivery.Step d d')
    (htaken : d'.taken = d.taken) (hchannels : d'.channels = d.channels) :
    Follows { a with bus := d'.bus } d' where
  reached := h.reached.tail hs
  bus_eq := rfl
  listeners_apart p hp := by
    obtain ⟨hlt, hc⟩ := h.listeners_apart p hp
    exact ⟨Nat.lt_of_lt_of_le hlt hs.nextId_le, hchannels ▸ hc⟩
  tickets_held := h.tickets_held
  channels_filled c hc := by
    rw [Delivery.done, htaken, hchannels]
    exact h.channels_filled c hc

theorem Plays.publish_bus (h : a.Plays) (what : Happening) :
    Plays { a with bus := (a.bus.publish what).1 } := by
  obtain ⟨d, hd⟩ := h
  exact ⟨_, hd.bus_eq ▸ hd.step (.publish what) rfl rfl⟩

theorem Plays.note (h : a.Plays) (l : Listener) (n : Note) : Plays (a.note l n) := by
  obtain ⟨d, hd⟩ := h
  exact ⟨d, { hd with }⟩

theorem Plays.unsubscribe (h : a.Plays) (name : String) : Plays (a.unsubscribe name).1 := by
  obtain ⟨d, hd⟩ := h
  unfold Audience.unsubscribe
  split
  · exact ⟨d, hd⟩
  · rename_i id hid
    obtain ⟨before, after, heq, -⟩ := List.lookup_eq_some_iff.mp hid
    have hticket : (name, id) ∈ a.tickets := heq ▸ List.mem_append_right _ List.mem_cons_self
    obtain ⟨p, hp, rfl⟩ := List.mem_map.mp (hd.tickets_held _ hticket)
    obtain ⟨hlt, hc⟩ := hd.listeners_apart p hp
    have hdone := hd.step (.unsubscribe hlt hc) rfl rfl
    refine ⟨_, { hdone with
      bus_eq := congrArg (Bus.unsubscribe · p.1) hd.bus_eq
      tickets_held := fun t ht => hd.tickets_held t (List.mem_of_mem_filter ht) }⟩

/-- What holds of an audience still holds after a listener has reacted if noting, giving up a
subscription and publishing keep it. -/
theorem react_induction {P : Audience → Prop} (hnote : ∀ a l n, P a → P (a.note l n))
    (hunsubscribe : ∀ a name, P a → P (a.unsubscribe name).1)
    (hpublish : ∀ a what, P a → P { a with bus := (a.bus.publish what).1 }) (l : Listener)
    (e : Entry) (h : P a) : P (a.react l e) := by
  have hnoted : P (if l.looksAtBus then (a.note l (.event e)).note l
      (.bus (a.note l (.event e)).bus.history.entries.length
        (a.note l (.event e)).bus.history.closed) else a.note l (.event e)) := by
    split
    · exact hnote _ _ _ (hnote _ _ _ h)
    · exact hnote _ _ _ h
  unfold react
  dsimp only
  split
  · split
    · refine hnote _ _ _ (hpublish _ _ ?_)
      split
      · exact hunsubscribe _ _ hnoted
      · exact hnoted
    · split
      · exact hunsubscribe _ _ hnoted
      · exact hnoted
  · split
    · exact hunsubscribe _ _ hnoted
    · exact hnoted

theorem react_listeners (a : Audience) (l : Listener) (e : Entry) :
    (a.react l e).listeners = a.listeners := by
  refine react_induction (P := (·.listeners = a.listeners)) (fun _ _ _ h => h) ?_ (fun _ _ h => h)
    l e rfl
  intro b name h
  unfold Audience.unsubscribe
  split <;> exact h

theorem settle_listeners (fuel : ℕ) (a : Audience) :
    (settle fuel a).listeners = a.listeners := by
  induction fuel generalizing a with
  | zero => rfl
  | succ fuel ih =>
    unfold settle
    split
    · rfl
    · split
      · exact ih _
      · exact (ih _).trans (react_listeners a _ _)

theorem Plays.react (h : a.Plays) {p : ℕ × Entry} (hcur : a.bus.current? = some p) (l : Listener)
    (e : Entry) : (a.react l e).Plays ∧ (a.react l e).bus.current? = some p := by
  refine react_induction (P := fun b => b.Plays ∧ b.bus.current? = some p) ?_ ?_ ?_ l e ⟨h, hcur⟩
  · rintro b l n ⟨hp, hb⟩
    exact ⟨hp.note l n, hb⟩
  · rintro b name ⟨hp, hb⟩
    refine ⟨hp.unsubscribe name, ?_⟩
    unfold Audience.unsubscribe
    split <;> exact hb
  · rintro b what ⟨hp, hb⟩
    exact ⟨hp.publish_bus what, Bus.publish_current? hb what⟩

/-- A subscriber is done with an event, after which the channels hold what is given. -/
theorem Follows.advance (h : a.Follows d) {id : ℕ} {e : Entry}
    (hcur : a.bus.current? = some (id, e)) (failed : Bool)
    (hfailed : failed = true → id ∉ d.channels) {channels : List (String × ℕ × List ℕ)}
    (hfilled : ∀ c ∈ channels, c.2.1 ∈ d.channels ∧
      c.2.2 <:+ (if c.2.1 = id then d.done c.2.1 ++ [e] else d.done c.2.1).map (·.seq)) :
    Plays { a with bus := a.bus.advance failed, channels } := by
  rw [← h.bus_eq] at hcur ⊢
  have hnext := Bus.advance_nextId hcur failed
  cases failed with
  | false =>
    refine ⟨_, {
      reached := h.reached.tail (.finish hcur)
      bus_eq := rfl
      listeners_apart := hnext.symm ▸ h.listeners_apart
      tickets_held := h.tickets_held
      channels_filled := fun c hc => ?_ }⟩
    rw [Delivery.done_concat]
    exact hfilled c hc
  | true =>
    refine ⟨_, {
      reached := h.reached.tail (.fail hcur (hfailed rfl))
      bus_eq := rfl
      listeners_apart := hnext.symm ▸ h.listeners_apart
      tickets_held := h.tickets_held
      channels_filled := fun c hc => ?_ }⟩
    rw [Delivery.done_concat]
    exact hfilled c hc

theorem Plays.send (h : a.Plays) {id : ℕ} {e : Entry} (hcur : a.bus.current? = some (id, e)) :
    Plays { a.send id e with bus := a.bus.advance false } := by
  obtain ⟨d, hd⟩ := h
  refine hd.advance hcur false (fun hf => nomatch hf) fun c hc => ?_
  obtain ⟨⟨name, i, seqs⟩, hmem, rfl⟩ := List.mem_map.mp hc
  obtain ⟨hi, before, hseqs⟩ := hd.channels_filled _ hmem
  refine ⟨hi, before, ?_⟩
  dsimp only at hseqs ⊢
  split
  · rw [List.map_append, ← hseqs, List.append_assoc]
    rfl
  · exact hseqs

/-- A subscription with a listener has no channel. -/
theorem Plays.advance (h : a.Plays) {id : ℕ} {e : Entry} (hcur : a.bus.current? = some (id, e))
    {l : Listener} (hl : a.listeners.lookup id = some l) (failed : Bool) :
    Plays { a with bus := a.bus.advance failed } := by
  obtain ⟨d, hd⟩ := h
  obtain ⟨before, after, heq, -⟩ := List.lookup_eq_some_iff.mp hl
  have hlistener : (id, l) ∈ a.listeners := heq ▸ List.mem_append_right _ List.mem_cons_self
  have hapart := (hd.listeners_apart _ hlistener).2
  refine hd.advance hcur failed (fun _ => hapart) fun c hc => ?_
  obtain ⟨hmem, hseqs⟩ := hd.channels_filled c hc
  have hne : c.2.1 ≠ id := fun hid => hapart (hid ▸ hmem)
  rw [if_neg hne]
  exact ⟨hmem, hseqs⟩

theorem Plays.settle (h : a.Plays) (fuel : ℕ) : (settle fuel a).Plays := by
  induction fuel generalizing a with
  | zero => exact h
  | succ fuel ih =>
    unfold Audience.settle
    split
    · exact h
    · rename_i id e hcur
      split
      · exact ih (h.send hcur)
      · rename_i l hl
        obtain ⟨hp, hcur'⟩ := h.react hcur l e
        exact ih (hp.advance hcur' ((react_listeners a l e).symm ▸ hl) _)

theorem Plays.publish (h : a.Plays) (what : Happening) : (a.publish what).1.Plays :=
  (h.publish_bus what).settle patience

/-- The next subscriber is nobody's channel yet. -/
theorem Follows.nextId_not_mem (h : a.Follows d) : d.bus.nextId ∉ d.channels :=
  fun hmem => Nat.lt_irrefl _ (h.reached.fair.1.channels_lt _ hmem)

theorem Plays.subscribe (h : a.Plays) (l : Listener) : (a.subscribe l).Plays := by
  have hnew : Plays { a with
      bus := a.bus.subscribe.1, listeners := (a.bus.subscribe.2, l) :: a.listeners } := by
    obtain ⟨d, hd⟩ := h
    have hstep := hd.step .subscribe rfl rfl
    rw [← hd.bus_eq]
    refine ⟨_, { hstep with
      listeners_apart := List.forall_mem_cons.mpr ⟨⟨?_, hd.nextId_not_mem⟩, hstep.listeners_apart⟩
      tickets_held := fun t ht => List.mem_cons_of_mem _ (hd.tickets_held t ht) }⟩
    exact (Bus.subscribe_nextId d.bus).symm ▸ Nat.lt_succ_self _
  obtain ⟨d, hd⟩ := hnew.settle patience
  refine ⟨d, { hd with tickets_held := List.forall_mem_cons.mpr ⟨?_, fun t ht => ?_⟩ }⟩
  · show a.bus.subscribe.2 ∈ (Audience.settle _ _).listeners.map (·.1)
    rw [settle_listeners]
    exact List.mem_cons_self
  · exact hd.tickets_held t (List.mem_of_mem_filter ht)

theorem Plays.openChannel (h : a.Plays) (name : String) : (a.openChannel name).Plays := by
  refine Plays.settle ?_ patience
  obtain ⟨d, hd⟩ := h
  have hlt : d.bus.nextId < d.bus.subscribe.1.nextId :=
    (Bus.subscribe_nextId d.bus).symm ▸ Nat.lt_succ_self _
  rw [← hd.bus_eq]
  refine ⟨_, {
    reached := hd.reached.tail .openChannel
    bus_eq := rfl
    listeners_apart := fun p hp => ?_
    tickets_held := hd.tickets_held
    channels_filled := List.forall_mem_cons.mpr
      ⟨⟨List.mem_cons_self, List.nil_suffix⟩, fun c hc => ?_⟩ }⟩
  · obtain ⟨hid, hc⟩ := hd.listeners_apart p hp
    refine ⟨Nat.lt_trans hid hlt, fun hmem => ?_⟩
    rcases List.mem_cons.mp hmem with heq | hmem
    · exact Nat.ne_of_lt hid heq
    · exact hc hmem
  · obtain ⟨hmem, hseqs⟩ := hd.channels_filled c (List.mem_of_mem_filter hc)
    exact ⟨List.mem_cons_of_mem _ hmem, hseqs⟩

theorem Plays.drain (h : a.Plays) (name : String) : (a.drain name).1.Plays := by
  obtain ⟨d, hd⟩ := h
  unfold Audience.drain
  split
  · exact ⟨d, hd⟩
  · refine ⟨d, { hd with channels_filled := List.forall_mem_map.mpr fun c hc => ?_ }⟩
    obtain ⟨hmem, hseqs⟩ := hd.channels_filled c hc
    refine ⟨hmem, ?_⟩
    dsimp only
    split
    · exact List.nil_suffix
    · exact hseqs

/-- Audiences that come about by using an empty one. -/
inductive Played : Audience → Prop
  | empty : Played {}
  | publish {a : Audience} (h : Played a) (what : Happening) : Played (a.publish what).1
  | subscribe {a : Audience} (h : Played a) (l : Listener) : Played (a.subscribe l)
  | unsubscribe {a : Audience} (h : Played a) (name : String) : Played (a.unsubscribe name).1
  | openChannel {a : Audience} (h : Played a) (name : String) : Played (a.openChannel name)
  | drain {a : Audience} (h : Played a) (name : String) : Played (a.drain name).1
  | collect {a : Audience} (h : Played a) : Played a.collect.2

theorem Played.plays (h : Played a) : a.Plays := by
  induction h with
  | empty =>
    exact ⟨{}, {
      reached := .refl
      bus_eq := rfl
      listeners_apart := List.forall_mem_nil _
      tickets_held := List.forall_mem_nil _
      channels_filled := List.forall_mem_nil _ }⟩
  | publish _ what ih => exact ih.publish what
  | subscribe _ l ih => exact ih.subscribe l
  | unsubscribe _ name ih => exact ih.unsubscribe name
  | openChannel _ name ih => exact ih.openChannel name
  | drain _ name ih => exact ih.drain name
  | collect _ ih =>
    obtain ⟨d, hd⟩ := ih
    exact ⟨d, { hd with }⟩

/-- In a channel there are the numbers of events that follow each other; and when nobody is being
handed anything they go up to the last event. -/
theorem Played.channel_consecutive (h : Played a) {name : String} {id : ℕ} {seqs : List ℕ}
    (hc : (name, id, seqs) ∈ a.channels) : ∃ n ≤ a.bus.history.entries.length,
      seqs <:+ List.range n ∧ (a.bus.current? = none → n = a.bus.history.entries.length) := by
  obtain ⟨d, hd⟩ := h.plays
  obtain ⟨hfair, hserved⟩ := hd.reached.fair
  obtain ⟨hmem, hseqs⟩ := hd.channels_filled _ hc
  have hdone : d.done id <+: d.bus.history.entries :=
    (List.prefix_append _ _).trans (hfair.share_initial id)
  rw [← hd.bus_eq]
  refine ⟨(d.done id).length, hdone.length_le, ?_, fun hrest => ?_⟩
  · exact Delivery.seqs_of_initial hfair.lawful.numbered hdone ▸ hseqs
  · rw [hfair.done_eq hserved hrest (hfair.channels_lt id hmem) (hfair.channels_kept id hmem)]

end Audience
end Workflow
