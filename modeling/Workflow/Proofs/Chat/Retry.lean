import Mathlib.Logic.Function.Iterate
import Mathlib.Order.Bounds.Basic
import Workflow.Chat.Retry

/-! Who is asked when a service retries and falls back to other models: how often, in which order
and for what, and whose answer or failure comes back. -/
namespace Workflow.Chat

variable {σ α : Type}

/-! ### Calls -/

/-- The model of the request, or another model by its place. -/
inductive Client where
  | main
  | other (place : ℕ)
  deriving DecidableEq, Repr

structure Call where
  client : Client
  request : ChatRequest
  deriving DecidableEq, Repr

/-- The service with a note of each call. -/
def noting (client : Client) (service : Service σ α) : Service (List Call × σ) α := fun request t =>
  ((service request t.2).1, t.1 ++ [⟨client, request⟩], (service request t.2).2)

/-- Other models with notes of their calls, by their places from the first one on. -/
def notingOthers (first : ℕ) (others : List (ModelSettings × Service σ α)) :
    List (ModelSettings × Service (List Call × σ) α) :=
  (others.zipIdx first).map fun (other, place) => (other.1, noting (.other place) other.2)

/-- One call of each of the other models, with its own settings. -/
def otherCalls (messages : List Message) (first : ℕ) (others : List (ModelSettings × Service σ α)) :
    List Call :=
  (others.zipIdx first).map fun (other, place) => ⟨.other place, other.1, messages⟩

/-- A result without the notes. -/
def unnoted (result : Except CallError α × List Call × σ) : Except CallError α × σ :=
  (result.1, result.2.2)

theorem notingOthers_cons (first : ℕ) (other : ModelSettings × Service σ α)
    (others : List (ModelSettings × Service σ α)) :
    notingOthers first (other :: others) =
      (other.1, noting (.other first) other.2) :: notingOthers (first + 1) others := rfl

theorem otherCalls_cons (messages : List Message) (first : ℕ) (other : ModelSettings × Service σ α)
    (others : List (ModelSettings × Service σ α)) :
    otherCalls messages first (other :: others) =
      ⟨.other first, other.1, messages⟩ :: otherCalls messages (first + 1) others := rfl

theorem unnoted_askAgain (client : Client) (service : Service σ α) (request : ChatRequest)
    (retries : ℕ) (calls : List Call) (s : σ) :
    unnoted (askAgain (noting client service) request retries (calls, s)) =
      askAgain service request retries s := by
  induction retries generalizing calls s with
  | zero => rfl
  | succ retries ih =>
    cases hanswer : service request s with
    | mk answer left =>
      cases answer with
      | ok a => simp [askAgain, noting, unnoted, hanswer]
      | error e =>
        cases he : e.isPassing with
        | true => simpa [askAgain, noting, hanswer, he] using ih (calls ++ [⟨client, request⟩]) left
        | false => simp [askAgain, noting, unnoted, hanswer, he]

theorem unnoted_askOthers (messages : List Message) (failure : CallError) (first : ℕ)
    (others : List (ModelSettings × Service σ α)) (calls : List Call) (s : σ) :
    unnoted (askOthers messages failure (notingOthers first others) (calls, s)) =
      askOthers messages failure others s := by
  induction others generalizing first calls s with
  | nil => rfl
  | cons other others ih =>
    obtain ⟨model, service⟩ := other
    rw [notingOthers_cons]
    cases hanswer : service ⟨model, messages⟩ s with
    | mk answer left =>
      cases answer with
      | ok a => simp [askOthers, noting, unnoted, hanswer]
      | error e =>
        simpa [askOthers, noting, hanswer] using
          ih (first + 1) (calls ++ [⟨.other first, model, messages⟩]) left

/-- Notes change nothing else. -/
theorem unnoted_retrying (retry : RetrySettings) (service : Service σ α)
    (others : List (ModelSettings × Service σ α)) (request : ChatRequest) (calls : List Call)
    (s : σ) :
    unnoted (retrying retry (noting .main service) (notingOthers 0 others) request (calls, s)) =
      retrying retry service others request s := by
  have hmain := unnoted_askAgain .main service request retry.maxRetries calls s
  unfold retrying
  rw [← hmain]
  cases hanswer : askAgain (noting .main service) request retry.maxRetries (calls, s) with
  | mk answer left =>
    cases answer with
    | ok a => rfl
    | error e => exact unnoted_askOthers request.messages e 0 others left.1 left.2

/-! ### Attempts -/

/-- What a service is left with after so many calls for the same. -/
def after (service : Service σ α) (request : ChatRequest) (s : σ) (n : ℕ) : σ :=
  (fun s => (service request s).2)^[n] s

/-- The answer to an attempt; attempts are counted from zero. -/
def attempt (service : Service σ α) (request : ChatRequest) (s : σ) (n : ℕ) : Except CallError α :=
  (service request (after service request s n)).1

/-- There is an answer, or a failure that will not pass. -/
def Settled : Except CallError α → Prop
  | .ok _ => True
  | .error e => e.isPassing = false

/-- The numbers of attempts that may be the last: one that settles the matter, and the one with
which the retries are used up. -/
def lastAttempts (service : Service σ α) (request : ChatRequest) (s : σ) (retries : ℕ) : Set ℕ :=
  {n | Settled (attempt service request s n) ∨ n = retries}

theorem after_succ (service : Service σ α) (request : ChatRequest) (s : σ) (n : ℕ) :
    after service request s (n + 1) = after service request (service request s).2 n :=
  Function.iterate_succ_apply _ n s

theorem attempt_succ (service : Service σ α) (request : ChatRequest) (s : σ) (n : ℕ) :
    attempt service request s (n + 1) = attempt service request (service request s).2 n := by
  rw [attempt, after_succ, attempt]

theorem isLeast_zero {service : Service σ α} {request : ChatRequest} {s : σ} {retries : ℕ}
    (h : Settled (service request s).1 ∨ 0 = retries) :
    IsLeast (lastAttempts service request s retries) 0 :=
  ⟨h, fun _ _ => Nat.zero_le _⟩

/-- After a failure that may pass, the attempts that follow count from there. -/
theorem isLeast_succ {service : Service σ α} {request : ChatRequest} {s : σ} {retries k : ℕ}
    (hfirst : ¬ Settled (service request s).1)
    (h : IsLeast (lastAttempts service request (service request s).2 retries) k) :
    IsLeast (lastAttempts service request s (retries + 1)) (k + 1) := by
  constructor
  · have hk : Settled (attempt service request (service request s).2 k) ∨ k = retries := h.1
    rw [← attempt_succ] at hk
    exact hk.imp_right (congrArg (· + 1))
  · intro n hn
    have hlast : Settled (attempt service request s n) ∨ n = retries + 1 := hn
    cases n with
    | zero =>
      rcases hlast with hsettled | hused
      · exact absurd hsettled hfirst
      · omega
    | succ n =>
      rw [attempt_succ] at hlast
      have hleast : k ≤ n := h.2 (hlast.imp_right Nat.succ.inj)
      omega

/-- The model of the request is asked up to the first attempt that may be the last. -/
theorem askAgain_noting (service : Service σ α) (request : ChatRequest) (retries : ℕ)
    (calls : List Call) (s : σ) :
    ∃ k, IsLeast (lastAttempts service request s retries) k ∧
      askAgain (noting .main service) request retries (calls, s) =
        (attempt service request s k, calls ++ List.replicate (k + 1) ⟨.main, request⟩,
          after service request s (k + 1)) := by
  induction retries generalizing calls s with
  | zero => exact ⟨0, isLeast_zero (.inr rfl), rfl⟩
  | succ retries ih =>
    cases hanswer : (service request s).1 with
    | ok a =>
      have hsettled : Settled (service request s).1 := by rw [hanswer]; trivial
      refine ⟨0, isLeast_zero (.inl hsettled), ?_⟩
      simp [askAgain, noting, attempt, after, hanswer]
    | error e =>
      cases he : e.isPassing with
      | true =>
        have hopen : ¬ Settled (service request s).1 := by simp [hanswer, Settled, he]
        obtain ⟨k, hk, hasked⟩ := ih (calls ++ [⟨.main, request⟩]) (service request s).2
        refine ⟨k + 1, isLeast_succ hopen hk, ?_⟩
        have hagain : askAgain (noting .main service) request (retries + 1) (calls, s) =
            askAgain (noting .main service) request retries
              (calls ++ [⟨.main, request⟩], (service request s).2) := by
          simp [askAgain, noting, hanswer, he]
        rw [hagain, hasked, attempt_succ, after_succ _ _ _ (k + 1), List.append_assoc,
          List.singleton_append, ← List.replicate_succ]
      | false =>
        have hsettled : Settled (service request s).1 := by rw [hanswer]; exact he
        refine ⟨0, isLeast_zero (.inl hsettled), ?_⟩
        simp [askAgain, noting, attempt, after, hanswer, he]

/-! ### Other models -/

/-- What is left after other models have been asked in turn. -/
def afterAll (messages : List Message) (others : List (ModelSettings × Service σ α)) (s : σ) : σ :=
  others.foldl (fun s other => (other.2 ⟨other.1, messages⟩ s).2) s

/-- The answer of the other model at a place, once those before it have been asked. -/
def otherAnswer? (messages : List Message) (others : List (ModelSettings × Service σ α)) (s : σ)
    (place : ℕ) : Option (Except CallError α) :=
  others[place]?.map fun other =>
    (other.2 ⟨other.1, messages⟩ (afterAll messages (others.take place) s)).1

/-- How falling back ends, and which of the other models have been asked: those up to the first one
that answers, or all of them, if none does. The failure is then the one there was before. -/
inductive FallsBack (messages : List Message) (others : List (ModelSettings × Service σ α)) (s : σ)
    (failure : CallError) : Except CallError α → List (ModelSettings × Service σ α) → Prop
  | answered {place : ℕ} {a : α} :
      otherAnswer? messages others s place = some (.ok a) →
      (∀ before < place, ∃ e, otherAnswer? messages others s before = some (.error e)) →
      FallsBack messages others s failure (.ok a) (others.take (place + 1))
  | failed :
      (∀ place < others.length, ∃ e, otherAnswer? messages others s place = some (.error e)) →
      FallsBack messages others s failure (.error failure) others

section

variable {messages : List Message} {failure : CallError} {s : σ}
  {other : ModelSettings × Service σ α} {others : List (ModelSettings × Service σ α)}

theorem otherAnswer?_zero :
    otherAnswer? messages (other :: others) s 0 = some (other.2 ⟨other.1, messages⟩ s).1 := rfl

theorem otherAnswer?_succ (place : ℕ) :
    otherAnswer? messages (other :: others) s (place + 1) =
      otherAnswer? messages others (other.2 ⟨other.1, messages⟩ s).2 place := rfl

/-- A model that fails is passed over. -/
theorem FallsBack.cons {e : CallError} {result : Except CallError α}
    {asked : List (ModelSettings × Service σ α)}
    (hfirst : (other.2 ⟨other.1, messages⟩ s).1 = .error e)
    (h : FallsBack messages others (other.2 ⟨other.1, messages⟩ s).2 failure result asked) :
    FallsBack messages (other :: others) s failure result (other :: asked) := by
  have hzero : otherAnswer? messages (other :: others) s 0 = some (.error e) := by
    rw [otherAnswer?_zero, hfirst]
  cases h with
  | @answered place a hanswer hbefore =>
    refine .answered ((otherAnswer?_succ place).trans hanswer) fun before hlt => ?_
    cases before with
    | zero => exact ⟨e, hzero⟩
    | succ before =>
      rw [otherAnswer?_succ]
      exact hbefore before (Nat.lt_of_succ_lt_succ hlt)
  | failed hfailed =>
    refine FallsBack.failed fun place hlt => ?_
    cases place with
    | zero => exact ⟨e, hzero⟩
    | succ place =>
      rw [otherAnswer?_succ]
      exact hfailed place (Nat.lt_of_succ_lt_succ hlt)

end

theorem askOthers_noting (messages : List Message) (failure : CallError) (first : ℕ)
    (others : List (ModelSettings × Service σ α)) (calls : List Call) (s : σ) :
    ∃ result asked, FallsBack messages others s failure result asked ∧
      askOthers messages failure (notingOthers first others) (calls, s) =
        (result, calls ++ otherCalls messages first asked, afterAll messages asked s) := by
  induction others generalizing first calls s with
  | nil => exact ⟨.error failure, [], .failed nofun, by simp [notingOthers, askOthers, otherCalls,
      afterAll]⟩
  | cons other others ih =>
    rw [notingOthers_cons]
    cases hanswer : (other.2 ⟨other.1, messages⟩ s).1 with
    | ok a =>
      have hzero : otherAnswer? messages (other :: others) s 0 = some (.ok a) := by
        rw [otherAnswer?_zero, hanswer]
      refine ⟨.ok a, [other], .answered hzero nofun, ?_⟩
      simp [askOthers, noting, otherCalls, afterAll, hanswer]
    | error e =>
      obtain ⟨result, asked, hback, hasked⟩ :=
        ih (first + 1) (calls ++ [⟨.other first, other.1, messages⟩])
          (other.2 ⟨other.1, messages⟩ s).2
      refine ⟨result, other :: asked, hback.cons hanswer, ?_⟩
      have hnext : askOthers messages failure ((other.1, noting (.other first) other.2) ::
          notingOthers (first + 1) others) (calls, s) =
          askOthers messages failure (notingOthers (first + 1) others)
            (calls ++ [⟨.other first, other.1, messages⟩], (other.2 ⟨other.1, messages⟩ s).2) := by
        simp [askOthers, noting, hanswer]
      rw [hnext, hasked, otherCalls_cons, List.append_assoc, List.singleton_append]
      rfl

/-- The model of the request is asked again and again, for the same, up to the first attempt that
succeeds, fails for good or has no retry behind it. If that attempt succeeds, its answer comes back
and nobody else is asked. If it fails, other models are asked for the same messages, each once and
in turn, up to the first one that answers; if none does, the failure of that attempt comes back. -/
theorem retrying_asks_in_turn (retry : RetrySettings) (service : Service σ α)
    (others : List (ModelSettings × Service σ α)) (request : ChatRequest) (s : σ) :
    let noted := retrying retry (noting .main service) (notingOthers 0 others) request ([], s)
    unnoted noted = retrying retry service others request s ∧
    ∃ k, IsLeast (lastAttempts service request s retry.maxRetries) k ∧
      let mainCalls := List.replicate (k + 1) ⟨.main, request⟩
      let left := after service request s (k + 1)
      match attempt service request s k with
      | .ok a => noted = (.ok a, mainCalls, left)
      | .error e => ∃ result asked, FallsBack request.messages others left e result asked ∧
          noted = (result, mainCalls ++ otherCalls request.messages 0 asked,
            afterAll request.messages asked left) := by
  refine ⟨unnoted_retrying retry service others request [] s, ?_⟩
  obtain ⟨k, hk, hasked⟩ := askAgain_noting service request retry.maxRetries [] s
  refine ⟨k, hk, ?_⟩
  unfold retrying
  rw [hasked, List.nil_append]
  cases hanswer : attempt service request s k with
  | ok a => rfl
  | error e => exact askOthers_noting request.messages e 0 others _ _

end Workflow.Chat
