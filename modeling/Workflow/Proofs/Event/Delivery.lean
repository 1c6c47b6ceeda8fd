import Workflow.Proofs.Event.Admission
import Mathlib.Data.List.Nodup
import Mathlib.Logic.Relation

/-! Buses in use. Calls come at any time, also from subscribers while they are being handed an
event; whatever the order, every subscriber is handed the events of the history one by one from the
first one on, and none is left over when nobody is being handed anything. -/
namespace Workflow

/-- A bus, with what its subscribers have taken. -/
structure Delivery where
  bus : Bus := {}
  /-- The events that subscribers are done with, the latest one last. -/
  taken : List (ℕ × Entry) := []
  /-- The subscribers that were unsubscribed, and those that failed. -/
  gone : List ℕ := []
  /-- The subscribers that put what they are handed into a channel. -/
  channels : List ℕ := []

namespace Delivery

/-- The steps of a bus in use. A call may come between any two of the others: what a subscriber does
while it is being handed an event is any sequence of calls, and then it returns or fails. Channels
do not fail, and nobody holds what would unsubscribe them. -/
inductive Step : Delivery → Delivery → Prop
  | publish {d : Delivery} (what : Happening) : Step d { d with bus := (d.bus.publish what).1 }
  | subscribe {d : Delivery} : Step d { d with bus := d.bus.subscribe.1 }
  | openChannel {d : Delivery} :
    Step d { d with bus := d.bus.subscribe.1, channels := d.bus.subscribe.2 :: d.channels }
  | unsubscribe {d : Delivery} {id : ℕ} (hid : id < d.bus.nextId) (hc : id ∉ d.channels) :
    Step d { d with bus := d.bus.unsubscribe id, gone := id :: d.gone }
  | finish {d : Delivery} {id : ℕ} {e : Entry} (hcur : d.bus.current? = some (id, e)) :
    Step d { d with bus := d.bus.advance false, taken := d.taken ++ [(id, e)] }
  | fail {d : Delivery} {id : ℕ} {e : Entry} (hcur : d.bus.current? = some (id, e))
    (hc : id ∉ d.channels) :
    Step d { d with
      bus := d.bus.advance true
      taken := d.taken ++ [(id, e)]
      gone := id :: d.gone }

/-- Buses that have been in use since they were new. -/
def Reached (d : Delivery) : Prop := Relation.ReflTransGen Step {} d

/-- Nobody is being handed anything. -/
def AtRest (d : Delivery) : Prop := d.bus.current? = none

/-- The events that a subscriber is done with. -/
def done (d : Delivery) (id : ℕ) : List Entry := (d.taken.filter (·.1 == id)).map (·.2)

/-- The events that a subscriber was handed, the one that it is being handed included. -/
def handed (d : Delivery) (id : ℕ) : List Entry :=
  ((d.taken ++ d.bus.current?.toList).filter (·.1 == id)).map (·.2)

/-- The events that are set apart for a subscriber. -/
def owed (batch : List (ℕ × List Entry)) (id : ℕ) : List Entry := (batch.lookup id).getD []

/-- What is left of a batch when the subscriber at its head is done with all but the
given events. -/
def remaining (id : ℕ) (events : List Entry) (rest : List (ℕ × List Entry)) :
    List (ℕ × List Entry) := if events = [] then rest else (id, events) :: rest

/-- What a subscriber will have been handed when the bus looks for more events. -/
def share (d : Delivery) (id : ℕ) : List Entry := d.done id ++ owed d.bus.batch id

/-! ### What is set apart -/

section Owed

variable {batch : List (ℕ × List Entry)} {id v : ℕ} {events : List Entry}

theorem owed_cons : owed ((id, events) :: batch) v = if v = id then events else owed batch v := by
  by_cases hv : v = id
  · simp [owed, hv]
  · simp [owed, List.lookup_cons, beq_false_of_ne hv, hv]

theorem owed_of_not_mem (h : v ∉ batch.map (·.1)) : owed batch v = [] := by
  induction batch with
  | nil => rfl
  | cons p batch ih =>
    obtain ⟨hv, hrest⟩ := not_or.mp (mt List.mem_cons.mpr h)
    rw [owed_cons, if_neg hv, ih hrest]

theorem owed_of_mem (hnodup : (batch.map (·.1)).Nodup) (h : (v, events) ∈ batch) :
    owed batch v = events := by
  induction batch with
  | nil => cases h
  | cons p batch ih =>
    rw [List.map_cons, List.nodup_cons] at hnodup
    rw [owed_cons]
    rcases List.mem_cons.mp h with rfl | h
    · rw [if_pos rfl]
    · have hne : v ≠ p.1 := fun hv => hnodup.1 (hv ▸ List.mem_map_of_mem (f := (·.1)) h)
      rw [if_neg hne, ih hnodup.2 h]

theorem owed_remaining (hid : id ∉ batch.map (·.1)) :
    owed (remaining id events batch) v = if v = id then events else owed batch v := by
  unfold remaining
  split
  · rename_i hnil
    split
    · rename_i hv
      rw [hv, owed_of_not_mem hid, hnil]
    · rfl
  · exact owed_cons

theorem mem_remaining {p : ℕ × List Entry} (hp : p ∈ remaining id events batch) :
    p ∈ batch ∨ p = (id, events) ∧ events ≠ [] := by
  unfold remaining at hp
  split at hp
  · exact Or.inl hp
  · rename_i hne
    exact (List.mem_cons.mp hp).symm.imp_right fun heq => ⟨heq, hne⟩

theorem remaining_nodup (h : (id :: batch.map (·.1)).Nodup) :
    ((remaining id events batch).map (·.1)).Nodup := by
  unfold remaining
  split
  · exact (List.nodup_cons.mp h).2
  · exact h

end Owed

theorem done_of_forall_ne {d : Delivery} {v : ℕ} (h : ∀ p ∈ d.taken, p.1 ≠ v) : d.done v = [] := by
  rw [done, List.filter_eq_nil_iff.mpr fun p hp => by simpa using h p hp]
  rfl

theorem done_concat (taken : List (ℕ × Entry)) (id v : ℕ) (e : Entry) (bus : Bus)
    (gone channels : List ℕ) :
    done ⟨bus, taken ++ [(id, e)], gone, channels⟩ v =
      if v = id then done ⟨bus, taken, gone, channels⟩ v ++ [e]
      else done ⟨bus, taken, gone, channels⟩ v := by
  by_cases hv : v = id
  · simp [done, List.filter_append, hv]
  · simp [done, List.filter_append, hv, Ne.symm hv]

/-! ### What the bus does -/

theorem current?_eq_some_iff {b : Bus} {id : ℕ} {e : Entry} :
    b.current? = some (id, e) ↔ ∃ events rest, b.batch = (id, e :: events) :: rest := by
  unfold Bus.current?
  split
  · rename_i id' e' events rest hb
    rw [hb]
    simp
  · rename_i hno
    refine iff_of_false (fun hn => nomatch hn) fun ⟨events, rest, hb⟩ => hno id e events rest hb

theorem advance_false {b : Bus} {id : ℕ} {e : Entry} {events : List Entry}
    {rest : List (ℕ × List Entry)} (hb : b.batch = (id, e :: events) :: rest) :
    b.advance false = Bus.deliver { b with batch := remaining id events rest } := by
  unfold Bus.advance
  rw [hb]
  cases events <;> rfl

theorem advance_true {b : Bus} {id : ℕ} {e : Entry} {events : List Entry}
    {rest : List (ℕ × List Entry)} (hb : b.batch = (id, e :: events) :: rest) :
    b.advance true = Bus.deliver { b.unsubscribe id with batch := rest } := by
  unfold Bus.advance
  rw [hb]
  rfl

theorem gather_of_eq_nil {b : Bus} (hnil : b.subscribers.filterMap b.pending = []) :
    b.gather = if b.history.closed then { b with batch := [], subscribers := [] }
      else { b with batch := [] } := by
  unfold Bus.gather
  rw [hnil]

theorem gather_of_ne_nil {b : Bus} (hne : b.subscribers.filterMap b.pending ≠ []) :
    b.gather = { b with
      batch := b.subscribers.filterMap b.pending
      subscribers := b.subscribers.map fun s =>
        { s with cursor := b.history.entries.length } } := by
  unfold Bus.gather
  split
  · rename_i hnil
    exact absurd hnil hne
  · rfl

theorem pending_eq (b : Bus) (s : Subscriber) : b.pending s =
    if b.history.entries.drop s.cursor = [] then none
    else some (s.id, b.history.entries.drop s.cursor) := by
  unfold Bus.pending
  split
  · rename_i hnil
    rw [if_pos hnil]
  · rename_i hne
    rw [if_neg hne]

theorem mem_pending {b : Bus} {p : ℕ × List Entry} :
    p ∈ b.subscribers.filterMap b.pending ↔
      ∃ s ∈ b.subscribers, p = (s.id, b.history.entries.drop s.cursor) ∧ p.2 ≠ [] := by
  rw [List.mem_filterMap]
  refine exists_congr fun s => and_congr_right fun _ => ?_
  rw [pending_eq]
  split
  · rename_i hnil
    refine iff_of_false (fun hno => nomatch hno) fun ⟨heq, hne⟩ => hne ?_
    rw [heq, hnil]
  · rename_i hne
    rw [Option.some_inj]
    exact ⟨fun heq => ⟨heq.symm, heq ▸ hne⟩, fun h => h.1.symm⟩

theorem pending_sublist (b : Bus) : ((b.subscribers.filterMap b.pending).map (·.1)).Sublist
    (b.subscribers.map (·.id)) := by
  induction b.subscribers with
  | nil => exact List.Sublist.refl _
  | cons s subscribers ih =>
    by_cases hnil : b.history.entries.drop s.cursor = []
    · rw [List.filterMap_cons, pending_eq, if_pos hnil]
      exact ih.cons s.id
    · rw [List.filterMap_cons, pending_eq, if_neg hnil]
      exact ih.cons_cons s.id

/-- What is set apart for a subscriber is what it has not seen. -/
theorem owed_pending {b : Bus} (hnodup : (b.subscribers.map (·.id)).Nodup) {s : Subscriber}
    (hs : s ∈ b.subscribers) :
    owed (b.subscribers.filterMap b.pending) s.id = b.history.entries.drop s.cursor := by
  by_cases hnil : b.history.entries.drop s.cursor = []
  · rw [hnil]
    refine owed_of_not_mem fun hmem => ?_
    obtain ⟨p, hp, hid⟩ := List.mem_map.mp hmem
    obtain ⟨t, ht, rfl, hne⟩ := mem_pending.mp hp
    exact hne (List.inj_on_of_nodup_map hnodup ht hs hid ▸ hnil)
  · exact owed_of_mem (hnodup.sublist (pending_sublist b)) (mem_pending.mpr ⟨s, hs, rfl, hnil⟩)

/-! ### The invariant -/

/-- What holds of a bus at any time. -/
structure Fair (d : Delivery) : Prop where
  lawful : d.bus.history.Lawful
  subscribers_nodup : (d.bus.subscribers.map (·.id)).Nodup
  subscribers_lt : ∀ s ∈ d.bus.subscribers, s.id < d.bus.nextId
  batch_nodup : (d.bus.batch.map (·.1)).Nodup
  batch_lt : ∀ p ∈ d.bus.batch, p.1 < d.bus.nextId
  batch_ne : ∀ p ∈ d.bus.batch, p.2 ≠ []
  taken_lt : ∀ p ∈ d.taken, p.1 < d.bus.nextId
  gone_lt : ∀ id ∈ d.gone, id < d.bus.nextId
  channels_lt : ∀ id ∈ d.channels, id < d.bus.nextId
  channels_kept : ∀ id ∈ d.channels, id ∉ d.gone
  /-- What is set apart for a subscriber goes on where it stopped. -/
  share_initial : ∀ id, d.share id <+: d.bus.history.entries
  cursor_eq : ∀ s ∈ d.bus.subscribers, s.cursor = (d.share s.id).length
  /-- Of itself the bus lets a subscriber go only when it has nothing more to tell. -/
  kept : ∀ id < d.bus.nextId, id ∉ d.gone → (∃ s ∈ d.bus.subscribers, s.id = id) ∨
    d.bus.history.closed = true ∧ d.share id = d.bus.history.entries

/-- What holds, besides, when nothing is set apart. -/
def Served (d : Delivery) : Prop := d.bus.batch = [] →
  (∀ s ∈ d.bus.subscribers, d.share s.id = d.bus.history.entries) ∧
    (d.bus.history.closed = true → d.bus.subscribers = [])

theorem fair_empty : Fair {} where
  lawful := History.lawful_empty
  subscribers_nodup := List.nodup_nil
  subscribers_lt := List.forall_mem_nil _
  batch_nodup := List.nodup_nil
  batch_lt := List.forall_mem_nil _
  batch_ne := List.forall_mem_nil _
  taken_lt := List.forall_mem_nil _
  gone_lt := List.forall_mem_nil _
  channels_lt := List.forall_mem_nil _
  channels_kept := List.forall_mem_nil _
  share_initial _ := List.prefix_rfl
  cursor_eq := List.forall_mem_nil _
  kept _ h := absurd h (Nat.not_lt_zero _)

namespace Fair

variable {d : Delivery}

/-- A subscriber has seen what its cursor says, and what follows in the history is what it has not
seen. -/
theorem share_append_drop (h : d.Fair) {s : Subscriber} (hs : s ∈ d.bus.subscribers) :
    d.share s.id ++ d.bus.history.entries.drop s.cursor = d.bus.history.entries := by
  rw [h.cursor_eq s hs]
  exact List.prefix_iff_eq_append.mp (h.share_initial s.id)

/-- An event at the end of the history is not set apart for anybody yet. -/
theorem append (h : d.Fair) {what : Happening} (ha : d.bus.history.admits what = true) :
    Fair { d with bus := { d.bus with history := d.bus.history.append what } } := by
  have heq : d.bus.history.append what = d.bus.history.publish what := by
    rw [History.publish, if_pos ha]
  refine { h with
    lawful := heq ▸ h.lawful.publish what
    share_initial := fun id => (h.share_initial id).trans (List.prefix_append _ _)
    kept := fun id hid hgone => (h.kept id hid hgone).imp_right fun hc => ?_ }
  rw [History.not_closed_of_admits ha] at hc
  exact absurd hc.1 Bool.false_ne_true

/-- A new subscriber has nothing yet. -/
theorem share_nextId (h : d.Fair) : d.share d.bus.nextId = [] := by
  have hdone : d.done d.bus.nextId = [] :=
    done_of_forall_ne fun p hp => Nat.ne_of_lt (h.taken_lt p hp)
  have howed : owed d.bus.batch d.bus.nextId = [] := by
    refine owed_of_not_mem fun hmem => ?_
    obtain ⟨p, hp, heq⟩ := List.mem_map.mp hmem
    exact Nat.lt_irrefl _ (heq ▸ h.batch_lt p hp)
  rw [share, hdone, howed, List.append_nil]

theorem subscribe (h : d.Fair) :
    Fair { d with bus := { d.bus with
      subscribers := d.bus.subscribers ++ [⟨d.bus.nextId, 0⟩]
      nextId := d.bus.nextId + 1 } } := by
  refine { h with
    subscribers_nodup := ?_
    subscribers_lt := ?_
    batch_lt := fun p hp => Nat.lt_succ_of_lt (h.batch_lt p hp)
    taken_lt := fun p hp => Nat.lt_succ_of_lt (h.taken_lt p hp)
    gone_lt := fun id hid => Nat.lt_succ_of_lt (h.gone_lt id hid)
    channels_lt := fun id hid => Nat.lt_succ_of_lt (h.channels_lt id hid)
    cursor_eq := ?_
    kept := ?_ }
  · rw [List.map_append]
    refine h.subscribers_nodup.append (List.nodup_singleton _) ?_
    rintro id hid hnew
    obtain ⟨s, hs, rfl⟩ := List.mem_map.mp hid
    exact Nat.ne_of_lt (h.subscribers_lt s hs) (List.mem_singleton.mp hnew)
  · intro s hs
    rcases List.mem_append.mp hs with hs | hs
    · exact Nat.lt_succ_of_lt (h.subscribers_lt s hs)
    · rw [List.mem_singleton.mp hs]
      exact Nat.lt_succ_self _
  · intro s hs
    rcases List.mem_append.mp hs with hs | hs
    · exact h.cursor_eq s hs
    · rw [List.mem_singleton.mp hs]
      exact (congrArg List.length h.share_nextId).symm
  · intro id hid hgone
    rcases Nat.lt_succ_iff_lt_or_eq.mp hid with hid | rfl
    · refine (h.kept id hid hgone).imp_left fun ⟨s, hs, hsid⟩ => ?_
      exact ⟨s, List.mem_append_left _ hs, hsid⟩
    · exact Or.inl ⟨_, List.mem_append_right _ (List.mem_singleton.mpr rfl), rfl⟩

theorem addChannel (h : d.Fair) {id : ℕ} (hid : id < d.bus.nextId) (hgone : id ∉ d.gone) :
    Fair { d with channels := id :: d.channels } :=
  { h with
    channels_lt := List.forall_mem_cons.mpr ⟨hid, h.channels_lt⟩
    channels_kept := List.forall_mem_cons.mpr ⟨hgone, h.channels_kept⟩ }

theorem unsubscribe (h : d.Fair) {id : ℕ} (hid : id < d.bus.nextId) (hc : id ∉ d.channels) :
    Fair { d with bus := d.bus.unsubscribe id, gone := id :: d.gone } := by
  have hsub : d.bus.subscribers.filter (·.id != id) ⊆ d.bus.subscribers :=
    List.filter_subset_self _
  refine { h with
    subscribers_nodup := h.subscribers_nodup.sublist (List.filter_sublist.map _)
    subscribers_lt := fun s hs => h.subscribers_lt s (hsub hs)
    gone_lt := List.forall_mem_cons.mpr ⟨hid, h.gone_lt⟩
    channels_kept := fun v hv => ?_
    cursor_eq := fun s hs => h.cursor_eq s (hsub hs)
    kept := fun v hv hgone => ?_ }
  · exact mt List.mem_cons.mp (not_or.mpr ⟨fun heq => hc (heq ▸ hv), h.channels_kept v hv⟩)
  · obtain ⟨hne, hgone⟩ := not_or.mp (mt List.mem_cons.mpr hgone)
    refine (h.kept v hv hgone).imp_left fun ⟨s, hs, hsid⟩ => ?_
    exact ⟨s, List.mem_filter.mpr ⟨hs, by simp [hsid, hne]⟩, hsid⟩

/-- An event that a subscriber is done with was set apart for it before. -/
theorem share_finish (h : d.Fair) {id : ℕ} {e : Entry} {events : List Entry}
    {rest : List (ℕ × List Entry)} (hb : d.bus.batch = (id, e :: events) :: rest) (v : ℕ) :
    share { d with
      bus := { d.bus with batch := remaining id events rest }
      taken := d.taken ++ [(id, e)] } v = d.share v := by
  have hnodup : (id :: rest.map (·.1)).Nodup := by simpa [hb] using h.batch_nodup
  rw [share, done_concat, share, hb, owed_cons, owed_remaining (List.nodup_cons.mp hnodup).1]
  by_cases hv : v = id
  · rw [if_pos hv, if_pos hv, if_pos hv, List.append_assoc]
    rfl
  · rw [if_neg hv, if_neg hv, if_neg hv]
    rfl

/-- A subscriber that is done with an event has had what it was owed before. -/
theorem finish (h : d.Fair) {id : ℕ} {e : Entry} {events : List Entry}
    {rest : List (ℕ × List Entry)} (hb : d.bus.batch = (id, e :: events) :: rest) :
    Fair { d with
      bus := { d.bus with batch := remaining id events rest }
      taken := d.taken ++ [(id, e)] } := by
  have hnodup : (id :: rest.map (·.1)).Nodup := by simpa [hb] using h.batch_nodup
  have hid : id < d.bus.nextId := h.batch_lt (id, e :: events) (hb ▸ List.mem_cons_self)
  have hrest : ∀ p ∈ rest, p ∈ d.bus.batch := fun p hp => hb ▸ List.mem_cons_of_mem _ hp
  have hshare := h.share_finish hb
  refine { h with
    batch_nodup := remaining_nodup hnodup
    batch_lt := fun p hp => ?_
    batch_ne := fun p hp => ?_
    taken_lt := List.forall_mem_append.mpr ⟨h.taken_lt, List.forall_mem_singleton.mpr hid⟩
    share_initial := fun v => hshare v ▸ h.share_initial v
    cursor_eq := fun s hs => hshare s.id ▸ h.cursor_eq s hs
    kept := fun v hv hgone => hshare v ▸ h.kept v hv hgone }
  · rcases mem_remaining hp with hp | ⟨rfl, -⟩
    · exact h.batch_lt p (hrest p hp)
    · exact hid
  · rcases mem_remaining hp with hp | ⟨rfl, hne⟩
    · exact h.batch_ne p (hrest p hp)
    · exact hne

/-- What is set apart for a subscriber that is gone may be dropped. -/
theorem drop (h : d.Fair) {id : ℕ} {events : List Entry} {rest : List (ℕ × List Entry)}
    (hb : d.bus.batch = (id, events) :: rest) (hgone : id ∈ d.gone)
    (hsubs : ∀ s ∈ d.bus.subscribers, s.id ≠ id) :
    Fair { d with bus := { d.bus with batch := rest } } := by
  have hnodup : (id :: rest.map (·.1)).Nodup := by simpa [hb] using h.batch_nodup
  have hrest : ∀ p ∈ rest, p ∈ d.bus.batch := fun p hp => hb ▸ List.mem_cons_of_mem _ hp
  have hshare : ∀ v ≠ id, share { d with bus := { d.bus with batch := rest } } v = d.share v := by
    intro v hv
    rw [share, share, hb, owed_cons, if_neg hv]
    rfl
  refine { h with
    batch_nodup := (List.nodup_cons.mp hnodup).2
    batch_lt := fun p hp => h.batch_lt p (hrest p hp)
    batch_ne := fun p hp => h.batch_ne p (hrest p hp)
    share_initial := fun v => ?_
    cursor_eq := fun s hs => hshare s.id (hsubs s hs) ▸ h.cursor_eq s hs
    kept := fun v hv hno => hshare v (fun heq => hno (heq ▸ hgone)) ▸ h.kept v hv hno }
  by_cases hv : v = id
  · have hshort := List.prefix_append (d.done v) (owed d.bus.batch v)
    rw [share, hv, owed_of_not_mem (List.nodup_cons.mp hnodup).1, List.append_nil, ← hv]
    exact hshort.trans (h.share_initial v)
  · exact hshare v hv ▸ h.share_initial v

/-- A subscriber that fails is unsubscribed and owed nothing more. -/
theorem fail (h : d.Fair) {id : ℕ} {e : Entry} {events : List Entry}
    {rest : List (ℕ × List Entry)} (hb : d.bus.batch = (id, e :: events) :: rest)
    (hc : id ∉ d.channels) :
    Fair { d with
      bus := { d.bus.unsubscribe id with batch := rest }
      taken := d.taken ++ [(id, e)]
      gone := id :: d.gone } := by
  have hid : id < d.bus.nextId := h.batch_lt (id, e :: events) (hb ▸ List.mem_cons_self)
  have hdone := (h.unsubscribe hid hc).finish hb
  by_cases hnil : events = []
  · rwa [remaining, if_pos hnil] at hdone
  · rw [remaining, if_neg hnil] at hdone
    refine hdone.drop rfl List.mem_cons_self fun s hs => ?_
    simpa using (List.mem_filter.mp hs).2

/-! ### Looking for more events -/

/-- When no subscriber has anything to see the delivery is over. -/
theorem gather_nothing (h : d.Fair) (hb : d.bus.batch = [])
    (hnil : d.bus.subscribers.filterMap d.bus.pending = []) :
    Fair { d with bus := d.bus.gather } ∧ Served { d with bus := d.bus.gather } := by
  have hall : ∀ s ∈ d.bus.subscribers, d.share s.id = d.bus.history.entries := by
    intro s hs
    have hseen : d.bus.history.entries.drop s.cursor = [] := by
      have hnone := List.filterMap_eq_nil_iff.mp hnil s hs
      rw [pending_eq] at hnone
      by_contra hne
      rw [if_neg hne] at hnone
      cases hnone
    simpa [hseen] using h.share_append_drop hs
  rw [gather_of_eq_nil hnil]
  obtain ⟨⟨history, subscribers, nextId, batch⟩, taken, gone, channels⟩ := d
  obtain rfl : batch = [] := hb
  split
  · rename_i hclosed
    refine ⟨{ h with
      subscribers_nodup := List.nodup_nil
      subscribers_lt := List.forall_mem_nil _
      cursor_eq := List.forall_mem_nil _
      kept := fun id hid hgone => Or.inr ?_ }, fun _ => ⟨List.forall_mem_nil _, fun _ => rfl⟩⟩
    rcases h.kept id hid hgone with ⟨s, hs, rfl⟩ | hkept
    · exact ⟨hclosed, hall s hs⟩
    · exact hkept
  · rename_i hopen
    exact ⟨h, fun _ => ⟨hall, fun hclosed => absurd hclosed hopen⟩⟩

/-- Otherwise everybody will have seen the whole history after the batch. -/
theorem gather_something (h : d.Fair) (hb : d.bus.batch = [])
    (hne : d.bus.subscribers.filterMap d.bus.pending ≠ []) :
    Fair { d with bus := d.bus.gather } ∧ Served { d with bus := d.bus.gather } := by
  have hshare : ∀ v, share { d with bus := d.bus.gather } v =
      d.share v ++ owed (d.bus.subscribers.filterMap d.bus.pending) v := by
    intro v
    have hdone : d.share v = d.done v := by
      rw [share, hb]
      exact List.append_nil _
    rw [hdone, share, gather_of_ne_nil hne]
    rfl
  have hall : ∀ s ∈ d.bus.subscribers,
      share { d with bus := d.bus.gather } s.id = d.bus.history.entries := by
    intro s hs
    rw [hshare, owed_pending h.subscribers_nodup hs, h.share_append_drop hs]
  have hother : ∀ v, (∀ s ∈ d.bus.subscribers, s.id ≠ v) →
      share { d with bus := d.bus.gather } v = d.share v := by
    intro v hv
    rw [hshare, owed_of_not_mem, List.append_nil]
    intro hmem
    obtain ⟨s, hs, hid⟩ := List.mem_map.mp ((pending_sublist d.bus).subset hmem)
    exact hv s hs hid
  rw [gather_of_ne_nil hne] at hall hother ⊢
  refine ⟨{ h with
    subscribers_nodup := ?_
    subscribers_lt := List.forall_mem_map.mpr h.subscribers_lt
    batch_nodup := h.subscribers_nodup.sublist (pending_sublist d.bus)
    batch_lt := fun p hp => ?_
    batch_ne := fun p hp => ?_
    share_initial := fun v => ?_
    cursor_eq := List.forall_mem_map.mpr fun s hs => congrArg List.length (hall s hs).symm
    kept := fun v hv hgone => ?_ }, fun hb' => absurd hb' hne⟩
  · rw [List.map_map]
    exact h.subscribers_nodup
  · obtain ⟨s, hs, rfl, -⟩ := mem_pending.mp hp
    exact h.subscribers_lt s hs
  · obtain ⟨s, hs, -, hp⟩ := mem_pending.mp hp
    exact hp
  · by_cases hv : ∃ s ∈ d.bus.subscribers, s.id = v
    · obtain ⟨s, hs, rfl⟩ := hv
      exact hall s hs ▸ List.prefix_rfl
    · rw [hother v fun s hs hid => hv ⟨s, hs, hid⟩]
      exact h.share_initial v
  · by_cases hsub : ∃ s ∈ d.bus.subscribers, s.id = v
    · obtain ⟨s, hs, hid⟩ := hsub
      exact Or.inl ⟨_, List.mem_map_of_mem hs, hid⟩
    · rw [hother v fun s hs hid => hsub ⟨s, hs, hid⟩]
      exact Or.inr ((h.kept v hv hgone).resolve_left hsub)

theorem deliver (h : d.Fair) :
    Fair { d with bus := d.bus.deliver } ∧ Served { d with bus := d.bus.deliver } := by
  unfold Bus.deliver
  split
  · rename_i hb
    have hb := List.isEmpty_iff.mp hb
    by_cases hnil : d.bus.subscribers.filterMap d.bus.pending = []
    · exact h.gather_nothing hb hnil
    · exact h.gather_something hb hnil
  · rename_i hb
    exact ⟨h, fun hnil => absurd (List.isEmpty_iff.mpr hnil) hb⟩

end Fair

/-! ### Steps -/

variable {d d' : Delivery}

/-- Whatever the step, it leaves a bus that holds to the invariant. -/
theorem Step.fair (hs : Step d d') (h : d.Fair) (hserved : d.Served) : d'.Fair ∧ d'.Served := by
  cases hs with
  | publish what =>
    unfold Bus.publish
    split
    · rename_i ha
      exact (h.append ha).deliver
    · exact ⟨h, hserved⟩
  | subscribe => exact h.subscribe.deliver
  | openChannel =>
    have hfresh : d.bus.nextId ∉ d.gone := fun hmem => Nat.lt_irrefl _ (h.gone_lt _ hmem)
    exact (h.subscribe.addChannel (Nat.lt_succ_self _) hfresh).deliver
  | unsubscribe hid hc =>
    refine ⟨h.unsubscribe hid hc, fun hb => ?_⟩
    obtain ⟨hall, hclosed⟩ := hserved hb
    refine ⟨fun s hs => hall s (List.mem_of_mem_filter hs), fun hc => ?_⟩
    show d.bus.subscribers.filter _ = []
    rw [hclosed hc]
    rfl
  | finish hcur =>
    obtain ⟨events, rest, hb⟩ := current?_eq_some_iff.mp hcur
    rw [advance_false hb]
    exact (h.finish hb).deliver
  | fail hcur hc =>
    obtain ⟨events, rest, hb⟩ := current?_eq_some_iff.mp hcur
    rw [advance_true hb]
    exact (h.fail hb hc).deliver

theorem Reached.fair (h : Reached d) : d.Fair ∧ d.Served := by
  induction h with
  | refl => exact ⟨fair_empty, fun _ => ⟨List.forall_mem_nil _, fun _ => rfl⟩⟩
  | tail _ hs ih => exact hs.fair ih.1 ih.2

end Delivery
end Workflow
