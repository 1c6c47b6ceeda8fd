import Workflow.Json.Document
import Mathlib.Data.List.TakeWhile

/-! Numbers in texts. A numeral that is read to its end is read the same with more text behind it,
as long as that text cannot go on with the numeral; and integers in the exact range are read back
from their digits. -/
namespace Workflow.Json

/-- A text that can stand behind a value: it ends there, or goes on with a comma or a closing
bracket. -/
def Breaks (rest : List Char) : Prop := ∀ c ∈ rest.head?, c = ',' ∨ c = ']' ∨ c = '\x7d'

theorem breaks_nil : Breaks [] := by
  intro c hc
  cases hc

theorem breaks_cons {c : Char} (h : c = ',' ∨ c = ']' ∨ c = '\x7d') (rest : List Char) :
    Breaks (c :: rest) := by
  intro d hd
  cases hd
  exact h

theorem Breaks.ne {rest : List Char} (h : Breaks rest) {c : Char} {r : List Char}
    (heq : rest = c :: r) : c.isDigit = false ∧ c ≠ '.' ∧ c ≠ 'e' ∧ c ≠ 'E' := by
  subst heq
  rcases h c rfl with rfl | rfl | rfl <;> decide

/-- Digits at the front of a text are not more with such a text behind it. -/
theorem Breaks.takeWhile_append {rest : List Char} (h : Breaks rest) (s : List Char) :
    (s ++ rest).takeWhile Char.isDigit = s.takeWhile Char.isDigit := by
  induction s with
  | nil =>
    cases hrest : rest with
    | nil => rfl
    | cons c r => simp [(h.ne hrest).1]
  | cons c s ih =>
    by_cases hc : c.isDigit
    · simp [hc, ih]
    · simp [hc]

theorem Breaks.dropWhile_append {rest : List Char} (h : Breaks rest) (s : List Char) :
    (s ++ rest).dropWhile Char.isDigit = s.dropWhile Char.isDigit ++ rest := by
  induction s with
  | nil =>
    cases hrest : rest with
    | nil => rfl
    | cons c r => simp [(h.ne hrest).1]
  | cons c s ih =>
    by_cases hc : c.isDigit
    · simp [hc, ih]
    · simp [hc]

namespace Numeral

variable {negative : Bool} {n : Number} {rest : List Char}

/-! ### More text behind a numeral -/

theorem noDigit_ne_ok {s : List Char} {result : Number × List Char} :
    noDigit s ≠ .ok result := by
  unfold noDigit
  split <;> simp

theorem real_rest {sig : ℕ} {e : Int} {left : List Char}
    (h : real negative sig e left = .ok (n, rest)) : left = rest := by
  unfold real at h
  split at h
  · cases h
    rfl
  · cases h

theorem real_append {sig : ℕ} {e : Int} {left : List Char}
    (h : real negative sig e left = .ok (n, [])) :
    real negative sig e (left ++ rest) = .ok (n, rest) := by
  obtain rfl := real_rest h
  unfold real at h ⊢
  split at h
  · cases h
    rfl
  · cases h

/-- The digits of an exponent, behind its sign. -/
def magnitude (negative : Bool) (sig : ℕ) (e : Int) (minus : Bool) (s : List Char) :
    Except Fault (Number × List Char) :=
  let digits := s.takeWhile Char.isDigit
  if digits.isEmpty then noDigit s
  else
    let n : Int := Decimal.ofDigits digits
    real negative sig (if minus then e - n else e + n) (s.dropWhile Char.isDigit)

theorem magnitude_append (hrest : Breaks rest) {sig : ℕ} {e : Int} {minus : Bool} {s : List Char}
    (h : magnitude negative sig e minus s = .ok (n, [])) :
    magnitude negative sig e minus (s ++ rest) = .ok (n, rest) := by
  unfold magnitude at h ⊢
  simp only [hrest.takeWhile_append, hrest.dropWhile_append] at h ⊢
  split at h
  · exact absurd h noDigit_ne_ok
  · rename_i hdigits
    rw [if_neg hdigits]
    exact real_append h

theorem exponent_append (hrest : Breaks rest) {sig : ℕ} {e : Int} {s : List Char}
    (h : exponent negative sig e s = .ok (n, [])) :
    exponent negative sig e (s ++ rest) = .ok (n, rest) := by
  cases s with
  | nil => cases h
  | cons c s =>
    by_cases hplus : c = '+'
    · subst hplus
      have hmagnitude : magnitude negative sig e false s = .ok (n, []) := h
      exact magnitude_append hrest hmagnitude
    by_cases hminus : c = '-'
    · subst hminus
      have hmagnitude : magnitude negative sig e true s = .ok (n, []) := h
      exact magnitude_append hrest hmagnitude
    -- Without a sign the digits start at once, whatever stands behind them.
    have hbare : ∀ r,
        exponent negative sig e (c :: r) = magnitude negative sig e false (c :: r) := by
      intro r
      unfold exponent magnitude
      split
      rename_i heq
      split at heq
      · rename_i hc
        exact absurd (List.cons.inj hc).1 hplus
      · rename_i hc
        exact absurd (List.cons.inj hc).1 hminus
      · cases heq
        rfl
    rw [hbare] at h
    rw [List.cons_append, hbare]
    exact magnitude_append hrest h

theorem fraction_append (hrest : Breaks rest) {sig : ℕ} {e : Int} {s : List Char}
    (h : fraction negative sig e s = .ok (n, [])) :
    fraction negative sig e (s ++ rest) = .ok (n, rest) := by
  unfold fraction at h ⊢
  simp only [hrest.takeWhile_append, hrest.dropWhile_append] at h ⊢
  split at h
  · exact absurd h noDigit_ne_ok
  rename_i hdigits
  rw [if_neg hdigits]
  split at h
  · rename_i r hr
    rw [hr]
    exact exponent_append hrest h
  · rename_i r hr
    rw [hr]
    exact exponent_append hrest h
  · have hend : s.dropWhile Char.isDigit = [] := real_rest h
    have hreal : real negative _ _ (s.dropWhile Char.isDigit ++ rest) = .ok (n, rest) :=
      real_append h
    rw [hend, List.nil_append] at hreal ⊢
    split
    · exact absurd rfl (hrest.ne rfl).2.2.1
    · exact absurd rfl (hrest.ne rfl).2.2.2
    · exact hreal

/-- The part of a numeral behind the digits of its whole. -/
def remainder (negative : Bool) (digits left : List Char) : Except Fault (Number × List Char) :=
  let (sig, dropped) := accumulate 0 digits
  match left with
  | '.' :: r => fraction negative sig dropped.length r
  | 'e' :: r => exponent negative sig dropped.length r
  | 'E' :: r => exponent negative sig dropped.length r
  | _ =>
    if dropped.isEmpty then .ok (integer negative sig, left)
    else real negative sig dropped.length left

theorem remainder_append (hrest : Breaks rest) {digits left : List Char}
    (h : remainder negative digits left = .ok (n, [])) :
    remainder negative digits (left ++ rest) = .ok (n, rest) := by
  unfold remainder at h
  dsimp only at h
  split at h
  · exact fraction_append hrest h
  · exact exponent_append hrest h
  · exact exponent_append hrest h
  · -- The numeral ends here, and what stands behind it does not go on with it.
    have hend : left = [] := by
      split at h
      · injection h with hpair
        exact (Prod.mk.inj hpair).2
      · exact real_rest h
    subst hend
    rw [List.nil_append]
    unfold remainder
    dsimp only
    split
    · exact absurd rfl (hrest.ne rfl).2.1
    · exact absurd rfl (hrest.ne rfl).2.2.1
    · exact absurd rfl (hrest.ne rfl).2.2.2
    · split at h
      · rename_i hall
        rw [if_pos hall]
        cases h
        rfl
      · rename_i hall
        rw [if_neg hall]
        exact real_append h

/-- The digits of a whole are there, and do not have a zero in front. -/
def Whole (digits : List Char) : Prop := digits ≠ [] ∧ ∀ c r, digits ≠ '0' :: c :: r

theorem read_of_whole {s : List Char} (h : Whole (s.takeWhile Char.isDigit)) :
    read negative s = remainder negative (s.takeWhile Char.isDigit) (s.dropWhile Char.isDigit) := by
  unfold read
  dsimp only
  split
  · rename_i hnil
    exact absurd hnil h.1
  · rename_i hzero
    exact absurd hzero (h.2 _ _)
  · rfl

theorem whole_of_read {s : List Char} (h : read negative s = .ok (n, rest)) :
    Whole (s.takeWhile Char.isDigit) := by
  unfold read at h
  dsimp only at h
  split at h
  · exact absurd h noDigit_ne_ok
  · cases h
  · rename_i hempty hzero
    exact ⟨hempty, hzero⟩

/-- A numeral that is read to its end is read with more text behind it. -/
theorem read_append (hrest : Breaks rest) {s : List Char}
    (h : read negative s = .ok (n, [])) : read negative (s ++ rest) = .ok (n, rest) := by
  have hwhole := whole_of_read h
  rw [read_of_whole hwhole] at h
  rw [← hrest.takeWhile_append] at hwhole
  rw [read_of_whole hwhole, hrest.takeWhile_append, hrest.dropWhile_append]
  exact remainder_append hrest h

/-! ### Integers -/

theorem accumulate_of_lt {sig : ℕ} {digits : List Char}
    (h : Nat.ofDigitChars 10 digits sig < Nat.pow 2 64) :
    accumulate sig digits = (Nat.ofDigitChars 10 digits sig, []) := by
  induction digits generalizing sig with
  | nil => rfl
  | cons c digits ih =>
    have hnext : 10 * sig + Decimal.digitValue c ≤ Nat.ofDigitChars 10 (c :: digits) sig := by
      rw [Nat.ofDigitChars_cons, Nat.ofDigitChars_eq_ofDigitChars_zero]
      have hpow : 1 ≤ 10 ^ digits.length := Nat.one_le_pow _ _ (by decide)
      have hmul := Nat.mul_le_mul_right (10 * sig + Decimal.digitValue c) hpow
      change 10 * sig + Decimal.digitValue c ≤
        10 ^ digits.length * (10 * sig + Decimal.digitValue c) + _
      omega
    rw [accumulate, if_pos (Nat.lt_of_le_of_lt hnext h)]
    rw [Nat.ofDigitChars_cons] at h ⊢
    exact ih h

theorem toDigits_ne_zero_cons {k : ℕ} (hk : 0 < k) (digits : List Char) :
    Nat.toDigits 10 k ≠ '0' :: digits := by
  induction k using Nat.strongRecOn generalizing digits with
  | ind k ih =>
    intro heq
    by_cases hlt : k < 10
    · rw [Nat.toDigits_of_lt_base hlt] at heq
      have hzero : k = 0 := Nat.digitChar_eq_zero.mp (List.cons.inj heq).1
      omega
    · rw [Nat.toDigits_of_base_le (by decide) (by omega)] at heq
      cases hfront : Nat.toDigits 10 (k / 10) with
      | nil => exact Nat.toDigits_ne_nil hfront
      | cons c r =>
        rw [hfront, List.cons_append] at heq
        obtain rfl := (List.cons.inj heq).1
        exact ih (k / 10) (by omega) (by omega) r hfront

theorem whole_toDigits (k : ℕ) : Whole (Nat.toDigits 10 k) := by
  refine ⟨Nat.toDigits_ne_nil, fun c digits heq => ?_⟩
  rcases Nat.eq_zero_or_pos k with rfl | hk
  · rw [Nat.toDigits_zero] at heq
    cases heq
  · exact toDigits_ne_zero_cons hk _ heq

theorem read_toDigits {k : ℕ} (hk : k < Nat.pow 2 64) :
    read negative (Nat.toDigits 10 k) = .ok (integer negative k, []) := by
  have hall : ∀ c ∈ Nat.toDigits 10 k, c.isDigit = true := fun c hc =>
    Nat.isDigit_of_mem_toDigits (by decide) (by decide) hc
  have htake : (Nat.toDigits 10 k).takeWhile Char.isDigit = Nat.toDigits 10 k :=
    List.takeWhile_eq_self_iff.mpr hall
  have hdrop : (Nat.toDigits 10 k).dropWhile Char.isDigit = [] :=
    List.dropWhile_eq_nil_iff.mpr hall
  have hsum : accumulate 0 (Nat.toDigits 10 k) = (k, []) := by
    rw [accumulate_of_lt (by rwa [Nat.ofDigitChars_ten_toDigits]), Nat.ofDigitChars_ten_toDigits]
  have hwhole : Whole ((Nat.toDigits 10 k).takeWhile Char.isDigit) := by
    rw [htake]
    exact whole_toDigits k
  rw [read_of_whole hwhole, htake, hdrop]
  unfold remainder
  simp [hsum]

end Numeral

/-! ### Numbers of documents -/

/-- What stands first in the text of a number. -/
def StartsNumber (c : Char) : Prop := c = '-' ∨ c.isDigit = true

/-- Read a number with its sign. -/
def Numeral.readSigned : List Char → Except Fault (Number × List Char)
  | '-' :: s => read true s
  | s => read false s

theorem Numeral.readSigned_of_ne {c : Char} (h : c ≠ '-') (s : List Char) :
    readSigned (c :: s) = read false (c :: s) := by
  unfold readSigned
  split
  · rename_i heq
    exact absurd (List.cons.inj heq).1 h
  · rfl

theorem skipSpace_cons {c : Char} (h : isSpace c = false) (s : List Char) :
    skipSpace (c :: s) = c :: s := by
  simp [skipSpace, h]

theorem StartsNumber.not_isSpace {c : Char} (h : StartsNumber c) : isSpace c = false := by
  rcases h with rfl | h
  · rfl
  · unfold isSpace
    simp only [Bool.or_eq_false_iff, beq_eq_false_iff_ne]
    refine ⟨⟨⟨?_, ?_⟩, ?_⟩, ?_⟩ <;> (rintro rfl; exact absurd h (by decide))

theorem readFront_of_startsNumber {c : Char} (h : StartsNumber c) (s : List Char) :
    Document.readFront (c :: s) =
      (Numeral.readSigned (c :: s)).map fun (n, rest) => (.num n, rest) := by
  unfold Document.readFront
  rw [skipSpace_cons h.not_isSpace]
  rcases h with rfl | h
  · rfl
  have hne : c ≠ '-' := by
    rintro rfl
    exact absurd h (by decide)
  rw [Numeral.readSigned_of_ne hne]
  split
  · rename_i heq
    cases heq
  case h_9 heq =>
    cases heq
    rw [if_pos h]
  all_goals
    rename_i heq
    rw [(List.cons.inj heq).1] at h
    exact absurd h (by decide)

end Workflow.Json

namespace Workflow.Number

open Json

/-- The text of the number is read as the number. -/
def ReadsBack (n : Number) : Prop := Numeral.readSigned n.text.toList = .ok (n, [])

instance (n : Number) : Decidable n.ReadsBack :=
  inferInstanceAs (Decidable (Numeral.readSigned n.text.toList = .ok (n, [])))

theorem repr_front (k : ℕ) : ∃ c s, (Nat.repr k).toList = c :: s ∧ c.isDigit = true := by
  have hall : ∀ c ∈ Nat.toDigits 10 k, c.isDigit = true := fun c hc =>
    Nat.isDigit_of_mem_toDigits (by decide) (by decide) hc
  rw [Nat.toList_repr]
  cases hd : Nat.toDigits 10 k with
  | nil => exact absurd hd Nat.toDigits_ne_nil
  | cons c s => exact ⟨c, s, rfl, hall c (hd ▸ List.mem_cons_self)⟩

theorem render_front (l : Decimal.Layout) (x : Decimal) :
    ∃ c s, x.render l = c :: s ∧ c.isDigit = true := by
  obtain ⟨c, s, hds, hc⟩ := repr_front x.digits
  unfold Decimal.render
  dsimp only
  rw [hds]
  split
  · exact ⟨'0', ['.', '0'], rfl, rfl⟩
  split
  · unfold Decimal.positional
    dsimp only
    split
    · exact ⟨'0', _, rfl, rfl⟩
    · rename_i hpoint
      split
      · exact ⟨c, _, rfl, hc⟩
      · obtain ⟨p, hp⟩ : ∃ p, (x.exponent + ((c :: s).length : ℕ)).toNat = p + 1 :=
          ⟨(x.exponent + ((c :: s).length : ℕ)).toNat - 1, by omega⟩
        rw [hp]
        exact ⟨c, _, rfl, hc⟩
  · cases s with
    | nil => exact ⟨c, _, rfl, hc⟩
    | cons d s => exact ⟨c, _, rfl, hc⟩

theorem text_front (n : Number) : ∃ c s, n.text.toList = c :: s ∧ StartsNumber c := by
  cases n with
  | int n =>
    cases n with
    | ofNat k =>
      obtain ⟨c, s, hs, hc⟩ := repr_front k
      exact ⟨c, s, hs, Or.inr hc⟩
    | negSucc k =>
      refine ⟨'-', (Nat.repr (k + 1)).toList, ?_, Or.inl rfl⟩
      simp [text, toString, Int.repr]
  | real x =>
    obtain ⟨c, s, hs, hc⟩ := render_front layout (x.shortest .double)
    cases hn : x.negative with
    | true => exact ⟨'-', c :: s, by simp [text, Binary.render, hn, hs], Or.inl rfl⟩
    | false => exact ⟨c, s, by simp [text, Binary.render, hn, hs], Or.inr hc⟩

/-- Behind the text of a number, there may be more text. -/
theorem readFront_text {n m : Number} (h : Numeral.readSigned n.text.toList = .ok (m, []))
    {rest : List Char} (hrest : Breaks rest) :
    Document.readFront (n.text.toList ++ rest) = .ok (.num m, rest) := by
  obtain ⟨c, s, hs, hc⟩ := n.text_front
  have hread : Numeral.readSigned (c :: s ++ rest) = .ok (m, rest) := by
    rw [hs] at h
    by_cases hminus : c = '-'
    · subst hminus
      exact Numeral.read_append hrest h
    · rw [Numeral.readSigned_of_ne hminus] at h
      rw [List.cons_append, Numeral.readSigned_of_ne hminus]
      exact Numeral.read_append hrest h
  rw [hs, List.cons_append, readFront_of_startsNumber hc, ← List.cons_append, hread]
  rfl

/-! ### The exact range -/

theorem natCast_exact_iff {k : ℕ} :
    (exactLeast ≤ (k : Int) ∧ (k : Int) ≤ exactGreatest) ↔ k < Nat.pow 2 64 := by
  have hleast : exactLeast = -9223372036854775808 := by decide
  have hgreatest : exactGreatest = 18446744073709551615 := by decide
  have hpow : Nat.pow 2 64 = 18446744073709551616 := by decide
  omega

theorem neg_exact_iff {k : ℕ} :
    (exactLeast ≤ -(k : Int) ∧ -(k : Int) ≤ exactGreatest) ↔ k ≤ Nat.pow 2 63 := by
  have hleast : exactLeast = -9223372036854775808 := by decide
  have hgreatest : exactGreatest = 18446744073709551615 := by decide
  have hpow : Nat.pow 2 63 = 9223372036854775808 := by decide
  omega

/-- Integers in the exact range are read back. -/
theorem readsBack_int {n : Int} (hl : exactLeast ≤ n) (hg : n ≤ exactGreatest) :
    (Number.int n).ReadsBack := by
  unfold ReadsBack
  cases n with
  | ofNat k =>
    obtain ⟨c, s, hs, hc⟩ := repr_front k
    have hne : c ≠ '-' := by
      rintro rfl
      exact absurd hc (by decide)
    show Numeral.readSigned (Nat.repr k).toList = _
    have hlt : k < Nat.pow 2 64 := natCast_exact_iff.mp ⟨hl, hg⟩
    have hread : Numeral.read false (Nat.toDigits 10 k) = .ok (Numeral.integer false k, []) :=
      Numeral.read_toDigits hlt
    rw [← Nat.toList_repr, hs] at hread
    rw [hs, Numeral.readSigned_of_ne hne, hread]
    rfl
  | negSucc k =>
    have htext : (Number.int (Int.negSucc k)).text.toList = '-' :: Nat.toDigits 10 (k + 1) := by
      rw [← Nat.toList_repr]
      simp [text, toString, Int.repr]
    have hle : k + 1 ≤ Nat.pow 2 63 := neg_exact_iff.mp ⟨hl, hg⟩
    have hlt : k + 1 < Nat.pow 2 64 := Nat.lt_of_le_of_lt hle (by decide)
    have hread : Numeral.read true (Nat.toDigits 10 (k + 1)) =
        .ok (Numeral.integer true (k + 1), []) := Numeral.read_toDigits hlt
    have hint : Numeral.integer true (k + 1) = .int (Int.negSucc k) := by
      unfold Numeral.integer
      rw [if_neg (by decide), if_neg]
      · rfl
      · simp only [Bool.or_eq_true, decide_eq_true_eq]
        omega
    rw [htext, ← hint]
    exact hread

end Workflow.Number
