import Workflow.Proofs.Event.Handing

/-! Subscribers that are unsubscribed. Nothing more is set apart for them, but what has been set
apart before is handed to them all the same. -/
namespace Workflow.Delivery

/-- The bus does not have the subscriber, and will not have it again. -/
def Off (d : Delivery) (id : ℕ) : Prop :=
  id < d.bus.nextId ∧ ∀ s ∈ d.bus.subscribers, s.id ≠ id

/-- After the call by which the subscription is given up. -/
def leave (d : Delivery) (id : ℕ) : Delivery :=
  { d with bus := d.bus.unsubscribe id, gone := id :: d.gone }

/-- The events that subscribers have been handed, the one that is being handed over included. -/
def begun (d : Delivery) : List (ℕ × Entry) := d.taken ++ d.bus.current?.toList

variable {d d' later : Delivery} {id : ℕ}

theorem leave_off (hid : id < d.bus.nextId) : (d.leave id).Off id := by
  refine ⟨hid, fun s hs => ?_⟩
  simpa using (List.mem_filter.mp hs).2

/-! ### Looking for more events -/

section Deliver

variable {b : Bus}

theorem deliver_nextId (b : Bus) : b.deliver.nextId = b.nextId := by
  unfold Bus.deliver Bus.gather
  split
  · split
    · split <;> rfl
    · rfl
  · rfl

theorem mem_subscribers_deliver {s : Subscriber} (hs : s ∈ b.deliver.subscribers) :
    ∃ t ∈ b.subscribers, t.id = s.id := by
  unfold Bus.deliver at hs
  split at hs
  · by_cases hnil : b.subscribers.filterMap b.pending = []
    · rw [gather_of_eq_nil hnil] at hs
      split at hs
      · cases hs
      · exact ⟨s, hs, rfl⟩
    · rw [gather_of_ne_nil hnil] at hs
      obtain ⟨t, ht, rfl⟩ := List.mem_map.mp hs
      exact ⟨t, ht, rfl⟩
  · exact ⟨s, hs, rfl⟩

/-- Nothing is set apart for those that the bus does not have. -/
theorem owed_deliver (hoff : ∀ s ∈ b.subscribers, s.id ≠ id) :
    owed b.deliver.batch id = owed b.batch id := by
  unfold Bus.deliver
  split
  · rename_i hb
    rw [List.isEmpty_iff.mp hb]
    by_cases hnil : b.subscribers.filterMap b.pending = []
    · rw [gather_of_eq_nil hnil]
      split <;> rfl
    · rw [gather_of_ne_nil hnil]
      refine owed_of_not_mem fun hmem => ?_
      obtain ⟨s, hs, hid⟩ := List.mem_map.mp ((pending_sublist b).subset hmem)
      exact hoff s hs hid
  · rfl

/-- Whoever is being handed an event goes on being handed it. -/
theorem current?_deliver (b : Bus) : b.current? = none ∨ b.deliver.current? = b.current? := by
  unfold Bus.deliver
  split
  · rename_i hb
    left
    rw [Bus.current?, List.isEmpty_iff.mp hb]
  · exact Or.inr rfl

end Deliver

variable {bus : Bus} {taken : List (ℕ × Entry)} {gone channels : List ℕ}

theorem Off.deliver (h : Off ⟨bus, taken, gone, channels⟩ id) :
    Off ⟨bus.deliver, taken, gone, channels⟩ id := by
  refine ⟨(deliver_nextId bus).symm ▸ h.1, fun s hs => ?_⟩
  obtain ⟨t, ht, hts⟩ := mem_subscribers_deliver hs
  exact hts ▸ h.2 t ht

theorem Off.share_deliver (h : Off ⟨bus, taken, gone, channels⟩ id) :
    share ⟨bus.deliver, taken, gone, channels⟩ id = share ⟨bus, taken, gone, channels⟩ id := by
  rw [share, owed_deliver h.2]
  rfl

theorem begun_deliver (bus : Bus) (taken : List (ℕ × Entry)) (gone channels : List ℕ) :
    begun ⟨bus, taken, gone, channels⟩ <+: begun ⟨bus.deliver, taken, gone, channels⟩ := by
  simp only [begun]
  rcases current?_deliver bus with hnone | hsame
  · rw [hnone, Option.toList_none, List.append_nil]
    exact List.prefix_append _ _
  · exact hsame ▸ List.prefix_rfl

/-! ### Steps -/

/-- What has been handed over stays so. -/
theorem Step.begun_initial (hs : Step d d') : d.begun <+: d'.begun := by
  cases hs with
  | publish what =>
    unfold Bus.publish
    split
    · exact begun_deliver { d.bus with history := d.bus.history.append what } _ _ _
    · exact List.prefix_rfl
  | subscribe | openChannel =>
    exact begun_deliver { d.bus with
      subscribers := d.bus.subscribers ++ [⟨d.bus.nextId, 0⟩]
      nextId := d.bus.nextId + 1 } _ _ _
  | unsubscribe => exact List.prefix_rfl
  | finish hcur | fail hcur =>
    rw [begun, begun, hcur]
    exact List.prefix_append _ _

theorem Off.subscribe (h : d.Off id) (channels : List ℕ) :
    Off { d with
      bus := { d.bus with
        subscribers := d.bus.subscribers ++ [⟨d.bus.nextId, 0⟩]
        nextId := d.bus.nextId + 1 }
      channels } id := by
  refine ⟨Nat.lt_succ_of_lt h.1, fun s hs => ?_⟩
  rcases List.mem_append.mp hs with hs | hs
  · exact h.2 s hs
  · rw [List.mem_singleton.mp hs]
    exact Nat.ne_of_gt h.1

theorem Off.unsubscribe (h : d.Off id) (v : ℕ) (gone : List ℕ) :
    Off { d with bus := d.bus.unsubscribe v, gone } id :=
  ⟨h.1, fun s hs => h.2 s (List.mem_filter.mp hs).1⟩

theorem Off.finish (h : d.Off id) (hfair : d.Fair) {u : ℕ} {e : Entry}
    (hcur : d.bus.current? = some (u, e)) :
    Off { d with bus := d.bus.advance false, taken := d.taken ++ [(u, e)] } id ∧
      share { d with bus := d.bus.advance false, taken := d.taken ++ [(u, e)] } id =
        d.share id := by
  obtain ⟨events, rest, hb⟩ := current?_eq_some_iff.mp hcur
  rw [advance_false hb]
  have hraw : Off { d with
      bus := { d.bus with batch := remaining u events rest }
      taken := d.taken ++ [(u, e)] } id := h
  exact ⟨hraw.deliver, hraw.share_deliver.trans (hfair.share_finish hb id)⟩

/-- A subscriber that is gone is handed what was set apart for it and nothing else. If it fails it
is not handed the rest. -/
theorem Step.share_initial (hs : Step d d') (hfair : d.Fair) (h : d.Off id) :
    d'.Off id ∧ d'.share id <+: d.share id := by
  cases hs with
  | publish what =>
    unfold Bus.publish
    split
    · have hraw : Off { d with bus := { d.bus with history := d.bus.history.append what } } id := h
      exact ⟨hraw.deliver, hraw.share_deliver ▸ List.prefix_rfl⟩
    · exact ⟨h, List.prefix_rfl⟩
  | subscribe =>
    have hraw := h.subscribe d.channels
    exact ⟨hraw.deliver, hraw.share_deliver ▸ List.prefix_rfl⟩
  | openChannel =>
    have hraw := h.subscribe (d.bus.subscribe.2 :: d.channels)
    exact ⟨hraw.deliver, hraw.share_deliver ▸ List.prefix_rfl⟩
  | unsubscribe => exact ⟨h.unsubscribe _ _, List.prefix_rfl⟩
  | finish hcur =>
    obtain ⟨hoff, hshare⟩ := h.finish hfair hcur
    exact ⟨hoff, hshare ▸ List.prefix_rfl⟩
  | @fail u e hcur =>
    obtain ⟨events, rest, hb⟩ := current?_eq_some_iff.mp hcur
    rw [advance_true hb]
    have hraw : Off { d with
        bus := { d.bus.unsubscribe u with batch := rest }
        taken := d.taken ++ [(u, e)]
        gone := u :: d.gone } id := h.unsubscribe u (u :: d.gone)
    have hnodup : (u :: rest.map (·.1)).Nodup := by simpa [hb] using hfair.batch_nodup
    refine ⟨hraw.deliver, ?_⟩
    rw [hraw.share_deliver, ← hfair.share_finish hb id, share, share]
    refine (List.prefix_append_right_inj _).mpr ?_
    rw [owed_remaining (List.nodup_cons.mp hnodup).1]
    split
    · rename_i hid
      rw [hid, owed_of_not_mem (List.nodup_cons.mp hnodup).1]
      exact List.nil_prefix
    · exact List.prefix_rfl

/-! ### Whole runs -/

theorem begun_initial (hlater : Relation.ReflTransGen Step d later) : d.begun <+: later.begun := by
  induction hlater with
  | refl => exact List.prefix_rfl
  | tail _ hs ih => exact ih.trans hs.begun_initial

theorem handed_initial (hlater : Relation.ReflTransGen Step d later) (id : ℕ) :
    d.handed id <+: later.handed id := ((begun_initial hlater).filter _).map _

theorem Off.share_initial (h : d.Off id) (hd : Reached d)
    (hlater : Relation.ReflTransGen Step d later) :
    later.Off id ∧ later.share id <+: d.share id := by
  induction hlater with
  | refl => exact ⟨h, List.prefix_rfl⟩
  | tail hbefore hs ih =>
    have hreached : Reached _ := hd.trans hbefore
    obtain ⟨hoff, hshare⟩ := hs.share_initial hreached.fair.1 ih.1
    exact ⟨hoff, hshare.trans ih.2⟩

theorem handed_eq_share (howed : owed d.bus.batch id = []) : d.handed id = d.share id := by
  refine (handed_initial_share d id).eq_of_length_le ?_
  rw [share, howed, List.append_nil]
  exact (((List.prefix_append d.taken _).filter _).map _).length_le

/-- The number of events that are set apart. -/
def load (batch : List (ℕ × List Entry)) : ℕ := (batch.flatMap (·.2)).length

theorem load_remaining (u : ℕ) (events : List Entry) (rest : List (ℕ × List Entry)) :
    load (remaining u events rest) = events.length + load rest := by
  unfold remaining
  split
  · rename_i hnil
    rw [hnil, List.length_nil, Nat.zero_add]
  · rw [load, List.flatMap_cons, List.length_append]
    rfl

/-- When subscribers just go on, each of them comes to be handed what is set apart for it. -/
theorem Off.exists_handed_share (h : d.Off id) (hd : Reached d) :
    ∃ later, Relation.ReflTransGen Step d later ∧ later.handed id = d.share id := by
  induction hn : load d.bus.batch using Nat.strongRecOn generalizing d with
  | ind n ih =>
    cases hcur : d.bus.current? with
    | none =>
      refine ⟨d, .refl, handed_eq_share ?_⟩
      rw [hd.fair.1.batch_eq_nil hcur]
      rfl
    | some p =>
      obtain ⟨u, e⟩ := p
      obtain ⟨events, rest, hb⟩ := current?_eq_some_iff.mp hcur
      obtain ⟨hoff, hshare⟩ := h.finish hd.fair.1 hcur
      have hstep : Step d _ := .finish hcur
      rw [← hshare]
      by_cases hmore : remaining u events rest = []
      · -- The batch ends here, and the next one has nothing for the subscriber.
        refine ⟨_, .single hstep, handed_eq_share ?_⟩
        rw [advance_false hb, hmore]
        exact owed_deliver (b := { d.bus with batch := [] }) h.2
      · have hbatch : (d.bus.advance false).batch = remaining u events rest := by
          rw [advance_false hb, Bus.deliver, if_neg (by simpa using hmore)]
        have hless : load (d.bus.advance false).batch < n := by
          rw [hbatch, load_remaining, ← hn, hb]
          simp [load]
        obtain ⟨later, hlater, hhanded⟩ := ih _ hless hoff (hd.tail hstep) rfl
        exact ⟨later, .head hstep hlater, hhanded⟩

/-- After it is unsubscribed the subscriber is not handed any more events. -/
def LeavesForGood (d : Delivery) (id : ℕ) : Prop :=
  ∀ later, Relation.ReflTransGen Step (d.leave id) later → later.handed id = d.handed id

/-- A subscriber that is unsubscribed, by itself or by another one, is still handed what was set
apart for it and nothing else. So it leaves for good just if that is no more than the event that it
is being handed; between deliveries this is so. -/
theorem unsubscribe_bounds (h : Reached d) (hid : id < d.bus.nextId) (hc : id ∉ d.channels) :
    Step d (d.leave id) ∧
    (∀ later, Relation.ReflTransGen Step (d.leave id) later →
      d.handed id <+: later.handed id ∧ later.handed id <+: d.share id) ∧
    (d.LeavesForGood id ↔ d.share id = d.handed id) ∧
    (d.AtRest → d.LeavesForGood id) := by
  have hleave : Step d (d.leave id) := .unsubscribe hid hc
  have hreached : Reached (d.leave id) := h.tail hleave
  have hoff := leave_off hid
  have hbounds : ∀ later, Relation.ReflTransGen Step (d.leave id) later →
      d.handed id <+: later.handed id ∧ later.handed id <+: d.share id := fun later hlater =>
    ⟨handed_initial hlater id,
      (handed_initial_share later id).trans (hoff.share_initial hreached hlater).2⟩
  have hiff : d.LeavesForGood id ↔ d.share id = d.handed id := by
    constructor
    · intro hfinal
      obtain ⟨later, hlater, hhanded⟩ := hoff.exists_handed_share hreached
      exact hhanded.symm.trans (hfinal later hlater)
    · intro hnone later hlater
      obtain ⟨hmore, hless⟩ := hbounds later hlater
      exact (hmore.eq_of_length_le (hnone ▸ hless.length_le)).symm
  refine ⟨hleave, hbounds, hiff, fun hrest => hiff.mpr ?_⟩
  rw [handed_eq_share]
  rw [h.fair.1.batch_eq_nil hrest]
  rfl

def started : Entry := ⟨0, .nodeStart "n" .llm "N"⟩
def firstOutput : Entry := ⟨1, .nodeOutput "n" .null⟩
def secondOutput : Entry := ⟨2, .nodeOutput "n" .null⟩

/-- Both subscribers have answered the start of a node with an output of it. The outputs have been
handed to one of them, and the other one is being handed the first. -/
def parting : Delivery where
  bus := {
    history := { entries := [started, firstOutput, secondOutput] }
    subscribers := [⟨0, 3⟩, ⟨1, 3⟩]
    nextId := 2
    batch := [(1, [firstOutput, secondOutput])] }
  taken := [(0, started), (1, started), (0, firstOutput), (0, secondOutput)]

theorem parting_reached : Reached parting := by
  have hnew : Reached {} := .refl
  have hstarted := ((hnew.tail .subscribe).tail .subscribe).tail (.publish started.what)
  have hfirst := (hstarted.tail (.publish firstOutput.what)).tail (.finish rfl)
  have hsecond := (hfirst.tail (.publish secondOutput.what)).tail (.finish rfl)
  exact (hsecond.tail (.finish rfl)).tail (.finish rfl)

/-- One of them is done with all that was set apart for it, the other one is not. -/
theorem unsubscribe_bounds_of_parting :
    Reached parting ∧ parting.LeavesForGood 0 ∧
    parting.handed 1 = [started, firstOutput] ∧
    parting.share 1 = [started, firstOutput, secondOutput] ∧
    ∀ later, Relation.ReflTransGen Step (parting.leave 1) later →
      later.handed 1 <+: parting.share 1 := by
  obtain ⟨-, -, hiff, -⟩ :=
    unsubscribe_bounds parting_reached (show 0 < parting.bus.nextId by decide) (by decide)
  obtain ⟨-, hbounds, -, -⟩ :=
    unsubscribe_bounds parting_reached (show 1 < parting.bus.nextId by decide) (by decide)
  exact ⟨parting_reached, hiff.mpr rfl, rfl, rfl, fun later hlater => (hbounds later hlater).2⟩

/-- The other one is handed the second output after it has unsubscribed. -/
theorem not_leavesForGood_of_parting :
    Reached parting ∧ Step parting (parting.leave 1) ∧ ¬ parting.LeavesForGood 1 ∧
    ∃ later, Step (parting.leave 1) later ∧ parting.handed 1 = [started, firstOutput] ∧
      later.handed 1 = [started, firstOutput, secondOutput] := by
  have hstep : Step (parting.leave 1) _ := .finish rfl
  refine ⟨parting_reached, .unsubscribe (by decide) (by decide), fun hfinal => ?_, _, hstep, rfl,
    rfl⟩
  exact absurd (hfinal _ (.single hstep)) (by decide)

end Workflow.Delivery
