import Workflow.Proofs.Run.Replay

/-! Cancellation: once the caller has cancelled a run that had no reason to stop, no node starts or
ends any more, the state stays as it is, and the run ends after it has reported the nodes in
flight. -/
namespace Workflow.Course

variable {allowed : Invocation → Except NodeFault Outcome → Prop} {g : Graph} {input : Fields}
  {c d e : Course} {added : List Happening}

/-- The steps that a cancelled run still has to take: to decide to stop, to report each node in
flight, and to end. -/
def left (c : Course) : ℕ :=
  (if c.ending = none then 1 else 0) + c.run.inFlight.length +
    (if c.run.outcome = none then 1 else 0)

/-- A step that is not one of the run: a node publishes a part of its output, or the caller cancels
the run once more. -/
def Idles (c d : Course) : Prop :=
  (∃ inv ∈ c.given, ∃ data, d = { c with run := c.run.emit inv.node.id data }) ∨
    d = { c with run := c.run.cancel }

/-- What has become of a course that was cancelled, with the events since then. -/
structure CutShort (allowed : Invocation → Except NodeFault Outcome → Prop) (c d : Course)
    (added : List Happening) : Prop where
  whats_eq : d.whats = c.whats ++ added
  no_start : ∀ what ∈ added, what.starts? = none
  no_end : ∀ v output elapsed, .nodeEnd v output elapsed ∉ added
  state_eq : d.run.state = c.run.state
  /-- A node that was in flight is reported as cancelled, and ends in no other way. -/
  reported : ∀ v ∈ c.run.inFlight, d.endings v =
    if v ∈ d.run.inFlight then [] else [.nodeError v NodeFault.cancelled.info]
  report_only : ∀ v error, .nodeError v error ∈ added → v ∈ c.run.inFlight
  queued : ∀ v ∈ c.run.ready, d.about v = []
  endless : (∀ v output elapsed, .nodeEnd v output elapsed ∉ c.whats) →
    ∀ v output elapsed, .nodeEnd v output elapsed ∉ d.whats
  /-- The run can always go on to its end, and takes no more steps to it than are left. -/
  ends : ∃ e, Later allowed d e ∧ e.Finished
  bounded : ∀ e, Step allowed d e → e.left < d.left ∨ d.Idles e
  finished : d.Finished → d.run.inFlight = [] ∧
    d.run.outcome = some { status := .cancelled, output := none, error := some .cancelled } ∧
    ∃ elapsed, d.whats.getLast? = some (.workflowEnd .cancelled none (some "run cancelled") elapsed)

/-! ### The way to the end -/

theorem left_decide (he : c.ending = none) (why : Termination) :
    left { c with ending := some why } + 1 = c.left := by
  simp only [left, he, reduceCtorEq, if_true, if_false]
  omega

theorem left_report {id : String} {rest : List String} (hf : c.run.inFlight = id :: rest) :
    left { c with run := c.run.report id } + 1 = c.left := by
  have hflight : (c.run.report id).inFlight = rest := by
    show c.run.inFlight.erase id = rest
    rw [hf, List.erase_cons_head]
  have hout : (c.run.report id).outcome = c.run.outcome := rfl
  simp only [left, hflight, hout, hf, List.length_cons]
  omega

theorem left_close (ho : c.run.outcome = none) (why : Termination) (elapsed : ℕ) :
    left { c with run := c.run.close why elapsed } + 1 = c.left := by
  have hflight : (c.run.close why elapsed).inFlight = c.run.inFlight := rfl
  have hout : (c.run.close why elapsed).outcome = some (c.run.outcomeOf why) := rfl
  simp only [left, hflight, hout, ho, reduceCtorEq, if_true, if_false]

/-- The run is cancelled, and has no other reason to stop. -/
structure GivesUp (c : Course) : Prop where
  cancelled : c.run.cancelled = true
  ending_cases : c.ending = none ∨ c.ending = some .cancelled

theorem GivesUp.step_left (h : c.GivesUp) (hs : Step allowed c d) :
    d.left < c.left ∨ c.Idles d := by
  cases hs with
  | dispatch he hn => exact absurd h.cancelled (by simp [(Run.next_eq_start.mp hn).1])
  | complete elapsed he hn hi hf ha =>
    exact absurd h.cancelled (by simp [(Run.next_eq_await.mp hn).1])
  | decide he hn => exact Or.inl (Nat.lt_of_succ_le (left_decide he _).le)
  | report he hf => exact Or.inl (Nat.lt_of_succ_le (left_report hf).le)
  | close elapsed he hf ho => exact Or.inl (Nat.lt_of_succ_le (left_close ho _ elapsed).le)
  | emit data hi => exact Or.inr (Or.inl ⟨_, hi, data, rfl⟩)
  | cancel => exact Or.inr (Or.inr rfl)

/-- As long as the run has not finished, it can take one of the steps that are left. -/
theorem GivesUp.progress (h : c.GivesUp) (hf : ¬ c.Finished) :
    ∃ d, Step allowed c d ∧ d.GivesUp ∧ d.left < c.left := by
  have ho : c.run.outcome = none := by simpa [Finished] using hf
  rcases h.ending_cases with he | he
  · have hn : c.run.next = .stop .cancelled := Run.next_eq_stop.mpr (Or.inl ⟨h.cancelled, rfl⟩)
    exact ⟨_, .decide he hn, ⟨h.cancelled, Or.inr rfl⟩, Nat.lt_of_succ_le (left_decide he _).le⟩
  · cases hflight : c.run.inFlight with
    | nil =>
      exact ⟨_, .close 0 he hflight ho, ⟨h.cancelled, Or.inr he⟩,
        Nat.lt_of_succ_le (left_close ho _ 0).le⟩
    | cons id rest =>
      exact ⟨_, .report he hflight, ⟨h.cancelled, Or.inr he⟩,
        Nat.lt_of_succ_le (left_report hflight).le⟩

theorem GivesUp.ends (h : c.GivesUp) : ∃ d, Later allowed c d ∧ d.Finished := by
  induction hn : c.left using Nat.strongRecOn generalizing c with
  | ind n ih =>
    by_cases hf : c.Finished
    · exact ⟨c, .refl, hf⟩
    · obtain ⟨d, hs, hd, hlt⟩ : ∃ d, Step allowed c d ∧ d.GivesUp ∧ d.left < c.left :=
        h.progress hf
      obtain ⟨e, hl, he⟩ := ih d.left (hn ▸ hlt) hd rfl
      exact ⟨e, .head hs hl, he⟩

/-! ### What is told on the way -/

/-- A run that gives up only tells of its own end and of the ends of nodes in flight. -/
theorem GivesUp.later (hg : g.Valid) (hc : Reached allowed g input c) (h : c.GivesUp)
    (hl : Later allowed c d) : d.GivesUp ∧ d.given = c.given ∧ d.run.state = c.run.state ∧
    ∃ added, d.whats = c.whats ++ added ∧ ∀ what ∈ added, what.Fades := by
  induction hl with
  | refl => exact ⟨h, rfl, rfl, [], (List.append_nil _).symm, fun _ hw => by cases hw⟩
  | @tail d e hl hs ih =>
    obtain ⟨hd, hgiven, hstate, added, hwhats, hfades⟩ := ih
    have hrd := hc.trans hl
    cases hs.account (Reached.sound hg hrd) (Reached.told hg hrd) with
    | starts node hgo => exact absurd (Or.inl hd.cancelled) hgo
    | returns inv result elapsed hgo => exact absurd (Or.inl hd.cancelled) hgo
    | passes hgiven' hwhats' hstate' hcancelled' hending' =>
      refine ⟨⟨hcancelled' hd.cancelled, ?_⟩, hgiven'.trans hgiven, hstate'.trans hstate, ?_⟩
      · rcases hending' with hsame | ⟨-, hcan | ⟨-, hno⟩⟩
        · exact hsame ▸ hd.ending_cases
        · exact Or.inr hcan
        · exact absurd hd.cancelled (by simp [hno])
      · rcases hwhats' with hsame | ⟨what, hadd, hwhat, -⟩
        · exact ⟨added, hsame.trans hwhats, hfades⟩
        · refine ⟨added ++ [what], by rw [hadd, hwhats, List.append_assoc], fun x hx => ?_⟩
          rcases List.mem_append.mp hx with hx | hx
          · exact hfades x hx
          · exact List.mem_singleton.mp hx ▸ hwhat

section Added

variable (h : c.Told g) (h' : d.Told g) (hsame : ∀ v, d.Given v ↔ c.Given v)
  (hwhats : d.whats = c.whats ++ added)

include h h' hsame hwhats

omit h h' hsame in
theorem endings_append (v : String) :
    d.endings v = c.endings v ++ added.filter fun what => what.ends? == some v := by
  rw [endings, hwhats, List.filter_append]
  rfl

/-- A node that was in flight is reported as cancelled once it is not in flight any more. -/
theorem endings_eq_report (hfades : ∀ what ∈ added, what.Fades) {v : String} (hv : c.Given v)
    (hflight : v ∈ c.run.inFlight) : d.endings v =
      if v ∈ d.run.inFlight then [] else [.nodeError v NodeFault.cancelled.info] := by
  have hadded := endings_append hwhats v
  rw [h.endings_eq_nil (Or.inr hflight), List.nil_append] at hadded
  split
  · exact h'.endings_eq_nil (Or.inr ‹_›)
  · obtain ⟨last, hlast⟩ := h'.endings_eq_singleton ((hsame v).mpr hv) ‹_›
    have hmem : last ∈ added.filter fun what => what.ends? == some v := by
      rw [← hadded, hlast]
      exact List.mem_singleton_self last
    obtain ⟨hmem, hends⟩ := List.mem_filter.mp hmem
    rw [hlast, (hfades last hmem).eq_nodeError (by simpa using hends)]

/-- A node that was not in flight has ended before, or does not start. -/
theorem inFlight_of_ends {v : String} {what : Happening} (hx : what ∈ added)
    (hends : what.ends? = some v) : v ∈ c.run.inFlight := by
  -- A node that had ended before would have two endings now.
  have hmem : what ∈ d.endings v := mem_endings.mpr ⟨hwhats ▸ List.mem_append_right _ hx, hends⟩
  have hnot : ¬ (¬ d.Given v ∨ v ∈ d.run.inFlight) := fun hv => by
    rw [h'.endings_eq_nil hv] at hmem
    cases hmem
  rw [not_or, not_not] at hnot
  by_contra hno
  obtain ⟨last, hlast⟩ := h.endings_eq_singleton ((hsame v).mp hnot.1) hno
  obtain ⟨last', hlast'⟩ := h'.endings_eq_singleton hnot.1 hnot.2
  have hadded := endings_append hwhats v
  rw [hlast, hlast'] at hadded
  have hnil : (added.filter fun what => what.ends? == some v) = [] := (List.cons.inj hadded).2.symm
  exact List.filter_eq_nil_iff.mp hnil what hx (by simp [hends])

end Added

/-- Once a run is cancelled that had no reason to stop before, nothing starts or ends any more and
the state stays as it is; the nodes in flight are reported as cancelled, and so is the run, which
ends whatever happens. -/
theorem cancel_cuts_short {w : Definition} (hw : Graph.compile w = .ok g)
    (hc : Reached allowed g input c) (he : c.ending = none)
    (hl : Later allowed { c with run := c.run.cancel } d) :
    ∃ added, CutShort allowed c d added := by
  have hg := Graph.compile_valid hw
  have hcancel : Reached allowed g input { c with run := c.run.cancel } := hc.tail .cancel
  have hd := hcancel.trans hl
  have hsound := Reached.sound hg hc
  have htold := Reached.told hg hc
  have htold' := Reached.told hg hd
  obtain ⟨hgives, hgiven, hstate, added, hwhats, hfades⟩ :=
    GivesUp.later hg hcancel ⟨rfl, Or.inl he⟩ hl
  have hsame : ∀ v, d.Given v ↔ c.Given v := fun v => by
    rw [Given, hgiven]
    rfl
  have hno : ∀ v output elapsed, .nodeEnd v output elapsed ∉ added := fun v output elapsed hx =>
    (hfades _ hx).elim
  refine ⟨added, hwhats, fun what hx => (hfades what hx).starts?, hno, hstate, fun v hv => ?_,
    fun v error hx => ?_, fun v hv => ?_, fun hnone v output elapsed hx => ?_, hgives.ends,
    fun e hs => hgives.step_left hs, fun hf => ?_⟩
  · exact endings_eq_report htold htold' hsame hwhats hfades (hsound.inFlight_given v hv) hv
  · exact inFlight_of_ends htold htold' hsame hwhats hx rfl
  · have hfresh : ¬ c.Given v := hsound.settling.ready_fresh v hv
    exact htold'.silent v fun hx => hfresh ((hsame v).mp hx)
  · rw [hwhats] at hx
    exact (List.mem_append.mp hx).elim (hnone v output elapsed) (hno v output elapsed)
  · obtain ⟨o, ho⟩ := Option.isSome_iff_exists.mp hf
    obtain ⟨why, hwhy, rfl⟩ := (Reached.trail hg hd).outcome_eq o ho
    have hcancelled : why = .cancelled := by
      rcases hgives.ending_cases with hx | hx
      · exact absurd (hx.symm.trans hwhy) (by simp)
      · exact Option.some.inj (hwhy.symm.trans hx)
    subst hcancelled
    exact ⟨(htold'.ended hf).2, ho, htold'.getLast?_whats ho⟩

/-- The relay cancelled with one tool in flight, the other one in the queue. -/
def relayCancelled : Course :=
  let stopping : Course :=
    { relayHalved with run := relayHalved.run.cancel, ending := some .cancelled }
  let reported : Course := { stopping with run := stopping.run.report "c" }
  { reported with run := reported.run.close .cancelled 2 }

theorem relayCancelled_later :
    Later Delivers { relayHalved with run := relayHalved.run.cancel } relayCancelled := by
  have hdecide : Later Delivers { relayHalved with run := relayHalved.run.cancel } _ :=
    .single (.decide (by decide +kernel) (show _ = Run.Move.stop .cancelled by decide +kernel))
  have hreport := hdecide.tail (.report rfl (show _ = "c" :: [] by decide +kernel))
  exact hreport.tail (.close 2 rfl (by decide +kernel) (by decide +kernel))

/-- The tool in flight is told to have been cancelled, and nothing is told of the other one. -/
theorem cancel_cuts_short_of_relay :
    Graph.compile relayWorkflow = .ok relay ∧ Reached Delivers relay relayInput relayHalved ∧
    relayHalved.ending = none ∧ relayHalved.run.inFlight = ["c"] ∧
    relayHalved.run.ready = ["b"] ∧ relayCancelled.Finished ∧
    Later Delivers { relayHalved with run := relayHalved.run.cancel } relayCancelled ∧
    ∃ added, CutShort Delivers relayHalved relayCancelled added :=
  have he : relayHalved.ending = none := by decide +kernel
  ⟨compile_relayWorkflow, relayHalved_reached, he, by decide +kernel, by decide +kernel, rfl,
    relayCancelled_later,
    cancel_cuts_short compile_relayWorkflow relayHalved_reached he relayCancelled_later⟩

end Workflow.Course
