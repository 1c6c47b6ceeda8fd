import Workflow.Chat.Retry
import Workflow.Chat.Wire
import Workflow.Proofs.Text.Encoding
import Workflow.Proofs.Text.Search

/-! Which refusals of a model service count as passing. The signs of passing failures are looked for
in the whole message, so that the status alone decides only if it is itself one of them: else the
text that the server sends along does. -/
namespace Workflow.Chat

/-! ### Signs -/

/-- The statuses of failures that may pass. -/
def passingStatuses : List ℕ := [429, 500, 502, 503, 504]

/-- The words for failures that may pass. -/
def passingWords : List String := ["timeout", "timed out", "connection"]

theorem passingSigns_eq : passingSigns = passingStatuses.map toString ++ passingWords := by decide

/-- The text has a sign of a passing failure. -/
def Signals (text : String) : Prop := ∃ sign ∈ passingSigns, sign.toList <:+: text.toList

theorem isPassing_llmRequest_iff (message : String) :
    (CallError.llmRequest message).isPassing = true ↔ Signals message := by
  rw [CallError.isPassing, List.any_eq_true]
  simp only [Text.occursIn_iff_infix]
  rfl

instance (text : String) : Decidable (Signals text) :=
  decidable_of_iff _ (isPassing_llmRequest_iff text)

/-! ### Status lines -/

/-- No phrase has a sign of a passing failure. -/
theorem not_infix_phrase {sign : String} (h : sign ∈ passingSigns) (status : ℕ) :
    ¬ sign.toList <:+: ((Web.phrase? status).getD "<unknown status code>").toList := by
  have htable : ∀ phrase ∈ "<unknown status code>" :: Web.phrases.map (·.2),
      ∀ sign ∈ passingSigns, Text.occursIn sign.toList phrase.toList = false := by
    decide +kernel
  have hmem : (Web.phrase? status).getD "<unknown status code>" ∈
      "<unknown status code>" :: Web.phrases.map (·.2) := by
    cases hphrase : Web.phrase? status with
    | none => exact List.mem_cons_self
    | some phrase =>
      obtain ⟨before, behind, heq, -⟩ := List.lookup_eq_some_iff.mp hphrase
      apply List.mem_cons_of_mem
      exact List.mem_map.mpr ⟨(status, phrase), by simp [heq], rfl⟩
  rw [← Text.occursIn_iff_infix, htable _ hmem sign h]
  exact Bool.false_ne_true

/-- A number of three digits stands in one of at most three only if they are the same. -/
theorem infix_status_iff {n status : ℕ} (hn : 100 ≤ n) (hstatus : status < 1000) :
    (toString n).toList <:+: (toString status).toList ↔ status = n := by
  constructor
  · intro h
    have hdigits : Nat.toDigits 10 n <:+: Nat.toDigits 10 status := by simpa using h
    have hlong : ¬ (Nat.toDigits 10 n).length ≤ 2 := by
      rw [Nat.length_toDigits_le_iff (by decide) (by decide)]
      omega
    have hshort : (Nat.toDigits 10 status).length ≤ 3 := by
      rw [Nat.length_toDigits_le_iff (by decide) (by decide)]
      omega
    have hle := hdigits.length_le
    have heq : Nat.toDigits 10 n = Nat.toDigits 10 status := hdigits.eq_of_length (by omega)
    rw [← Nat.ofDigitChars_ten_toDigits (n := status), ← heq, Nat.ofDigitChars_ten_toDigits]
  · rintro rfl
    exact List.infix_rfl

/-- What a message says in front of the text of the server. -/
def statusLine (status : ℕ) : String := "HTTP " ++ Web.statusText status

theorem toList_statusLine (status : ℕ) :
    (statusLine status).toList = "HTTP ".toList ++ ((toString status).toList ++
      ' ' :: ((Web.phrase? status).getD "<unknown status code>").toList) := by
  simp [statusLine, Web.statusText]

theorem infix_statusLine_iff {n : ℕ} (hn : n ∈ passingStatuses) {status : ℕ}
    (hstatus : status < 1000) :
    (toString n).toList <:+: (statusLine status).toList ↔ status = n := by
  have hsign : toString n ∈ passingSigns :=
    passingSigns_eq ▸ List.mem_append_left _ (List.mem_map_of_mem hn)
  have hplain : ∀ n ∈ passingStatuses,
      100 ≤ n ∧ ' ' ∉ (toString n).toList ∧
        Text.occursIn (toString n).toList "HTTP".toList = false := by
    decide
  obtain ⟨hlong, hspace, hprotocol⟩ := hplain n hn
  have hnot : ¬ (toString n).toList <:+: "HTTP".toList := by
    rw [← Text.occursIn_iff_infix, hprotocol]
    exact Bool.false_ne_true
  have hline : (statusLine status).toList = "HTTP".toList ++ ' ' :: ((toString status).toList ++
      ' ' :: ((Web.phrase? status).getD "<unknown status code>").toList) := toList_statusLine status
  rw [hline, Text.infix_append_cons_iff hspace, or_iff_right hnot,
    Text.infix_append_cons_iff hspace,
    or_iff_left (not_infix_phrase hsign status), infix_status_iff hlong hstatus]

/-- No word begins before the phrase. -/
theorem not_infix_statusLine {word : String} (h : word ∈ passingWords) (status : ℕ) :
    ¬ word.toList <:+: (statusLine status).toList := by
  have hsign : word ∈ passingSigns := passingSigns_eq ▸ List.mem_append_right _ h
  have hfront : ∀ word ∈ passingWords, word.toList.head?.any
      (fun c => c ∉ "HTTP ".toList ∧ c.isDigit = false ∧ c ≠ ' ') = true := by
    decide
  obtain ⟨c, rest, hword, hc⟩ := Text.exists_cons_of_head? (hfront word h)
  obtain ⟨hletter, hdigit, hspace⟩ := of_decide_eq_true hc
  have hphrase := not_infix_phrase hsign status
  rw [hword] at hphrase ⊢
  have hnumber : c ∉ (toString status).toList ++ [' '] := by
    intro hc
    rcases List.mem_append.mp hc with hstatus | hblank
    · exact absurd (Text.isDigit_of_mem_toString hstatus) (by simp [hdigit])
    · exact hspace (List.mem_singleton.mp hblank)
  rw [toList_statusLine, Text.cons_infix_append_iff hletter, List.append_cons,
    Text.cons_infix_append_iff hnumber]
  exact hphrase

theorem signals_statusLine_iff {status : ℕ} (hstatus : status < 1000) :
    Signals (statusLine status) ↔ status ∈ passingStatuses := by
  constructor
  · rintro ⟨sign, hsign, hin⟩
    rw [passingSigns_eq, List.mem_append] at hsign
    rcases hsign with hnumber | hword
    · obtain ⟨n, hn, rfl⟩ := List.mem_map.mp hnumber
      rw [(infix_statusLine_iff hn hstatus).mp hin]
      exact hn
    · exact absurd hin (not_infix_statusLine hword status)
  · intro hmem
    refine ⟨toString status, ?_, (infix_statusLine_iff hmem hstatus).mpr rfl⟩
    rw [passingSigns_eq]
    exact List.mem_append_left _ (List.mem_map_of_mem hmem)

/-! ### Messages -/

/-- No sign reaches across the colon and the blank behind the status line. -/
theorem signals_append_iff (line detail : String) :
    Signals (line ++ ": " ++ detail) ↔ Signals line ∨ Signals detail := by
  have htext : (line ++ ": " ++ detail).toList = line.toList ++ ':' :: ' ' :: detail.toList := by
    simp
  have hplain : ∀ sign ∈ passingSigns,
      ':' ∉ sign.toList ∧ sign.toList.head?.any (· ≠ ' ') = true := by
    decide
  have hsign : ∀ sign ∈ passingSigns, (sign.toList <:+: (line ++ ": " ++ detail).toList ↔
      sign.toList <:+: line.toList ∨ sign.toList <:+: detail.toList) := by
    intro sign hsign
    obtain ⟨hcolon, hhead⟩ := hplain sign hsign
    obtain ⟨c, rest, hcons, hc⟩ := Text.exists_cons_of_head? hhead
    have hblank : c ∉ [' '] := by
      rw [List.mem_singleton]
      exact of_decide_eq_true hc
    rw [htext, Text.infix_append_cons_iff hcolon, ← List.singleton_append, hcons,
      Text.cons_infix_append_iff hblank]
  constructor
  · rintro ⟨sign, hmem, hin⟩
    exact ((hsign sign hmem).mp hin).imp (⟨sign, hmem, ·⟩) (⟨sign, hmem, ·⟩)
  · rintro (⟨sign, hmem, hin⟩ | ⟨sign, hmem, hin⟩)
    · exact ⟨sign, hmem, (hsign sign hmem).mpr (.inl hin)⟩
    · exact ⟨sign, hmem, (hsign sign hmem).mpr (.inr hin)⟩

/-- What a server says about its refusal. -/
def detail (r : Web.Response) : String :=
  match r.text with
  | .ok text => text
  | .error _ => "unknown"

theorem refusal_eq (r : Web.Response) :
    refusal r = .llmRequest (statusLine r.status ++ ": " ++ detail r) := rfl

theorem isPassing_refusal_iff {r : Web.Response} (h : r.status < 1000) :
    (refusal r).isPassing = true ↔ r.status ∈ passingStatuses ∨ Signals (detail r) := by
  rw [refusal_eq, isPassing_llmRequest_iff, signals_append_iff, signals_statusLine_iff h]

/-- A refusal counts as passing if its status is that of a failure that may pass, or what the server
says has a sign of one. So two refusals with one status count the same if it is such a status, and
else if both texts have a sign or none does. -/
theorem refusal_passes_by_status_or_detail {r : Web.Response} (h : r.status < 1000) :
    ((refusal r).isPassing = true ↔ r.status ∈ passingStatuses ∨ Signals (detail r)) ∧
    ∀ r' : Web.Response, r'.status = r.status →
      ((refusal r').isPassing = (refusal r).isPassing ↔
        r.status ∈ passingStatuses ∨ (Signals (detail r') ↔ Signals (detail r))) := by
  refine ⟨isPassing_refusal_iff h, fun r' hstatus => ?_⟩
  have hother := isPassing_refusal_iff (r := r') (hstatus ▸ h)
  rw [hstatus] at hother
  rw [Bool.eq_iff_iff, hother, isPassing_refusal_iff h]
  by_cases hmem : r.status ∈ passingStatuses
  · simp only [hmem, true_or]
  · simp only [hmem, false_or]

/-- A refusal for good whose text mentions a number with the digits of a passing status. -/
def tooLong : Web.Response where
  status := 400
  headers := []
  body := Text.encode "limit 1500 tokens".toList
  whole := true

/-- The same refusal without the text. -/
def bare : Web.Response := { tooLong with body := [] }

theorem refusal_passes_by_status_or_detail_of_tooLong :
    tooLong.status < 1000 ∧ bare.status = tooLong.status ∧
    (refusal tooLong).isPassing = true ∧
    (refusal bare).isPassing ≠ (refusal tooLong).isPassing := by
  have hlow : tooLong.status < 1000 := by decide
  have hsame : bare.status = tooLong.status := rfl
  have hsignals : Signals (detail tooLong) := by decide +kernel
  have hsilent : ¬ Signals (detail bare) := by decide +kernel
  have hstatus : tooLong.status ∉ passingStatuses := by decide
  obtain ⟨hpasses, hagree⟩ := refusal_passes_by_status_or_detail hlow
  refine ⟨hlow, hsame, hpasses.mpr (.inr hsignals), fun heq => ?_⟩
  rcases (hagree bare hsame).mp heq with hmem | hiff
  · exact hstatus hmem
  · exact hsilent (hiff.mpr hsignals)

/-- Whether a refusal counts as passing depends on its status only, and on which one it is. -/
def StatusDecides : Prop :=
  ∀ r r' : Web.Response, 100 ≤ r.status → r.status < 1000 → r.isSuccess = false →
    r'.status = r.status →
    ((refusal r').isPassing = true ↔ (refusal r).isPassing = true) ∧
    ((refusal r).isPassing = true ↔ r.status ∈ passingStatuses)

theorem not_statusDecides_of_tooLong : ¬ StatusDecides := by
  intro h
  obtain ⟨hsame, -⟩ := h tooLong bare (by decide) (by decide) (by decide) rfl
  revert hsame
  decide +kernel

end Workflow.Chat
