import Workflow.Json.Printer
import Workflow.Json.Quotation
import Mathlib.Data.List.Basic

/-! Quoted texts: what is written between quotes, its marks and control characters escaped, is read
back as it was. -/
namespace Workflow.Json

namespace Quotation

/-- The four digits of a control character denote it. -/
theorem unit?_control : ∀ n < 32,
    unit? '0' '0' (Nat.digitChar (n / 16)) (Nat.digitChar (n % 16)) = some n := by decide

theorem unicode_control {c : Char} (h : c.toNat < 32) (rest : List Char) :
    unicode ('0' :: '0' :: Nat.digitChar (c.toNat / 16) :: Nat.digitChar (c.toNat % 16) :: rest) =
      .ok (c, rest) := by
  have hunit : unitAt ('0' :: '0' :: Nat.digitChar (c.toNat / 16)
      :: Nat.digitChar (c.toNat % 16) :: rest) = .ok (c.toNat, rest) := by
    unfold unitAt
    simp only [unit?_control c.toNat h, Option.map_some]
  have hlow : isLowSurrogate c.toNat = false := by
    unfold isLowSurrogate
    simp only [Bool.and_eq_false_iff, decide_eq_false_iff_not]
    omega
  have hhigh : isHighSurrogate c.toNat = false := by
    unfold isHighSurrogate
    simp only [Bool.and_eq_false_iff, decide_eq_false_iff_not]
    omega
  unfold unicode
  rw [hunit]
  simp only [bind, Except.bind, pure, Except.pure, hlow, hhigh, Bool.not_false, if_true,
    Bool.false_eq_true, if_false, Char.ofNat_toNat]

/-- One character is read back from its escape. -/
theorem readFrom_escapeChar (c : Char) (fuel : ℕ) (rest acc : List Char) :
    readFrom (fuel + 1) (escapeChar c ++ rest) acc = readFrom fuel rest (c :: acc) := by
  unfold escapeChar
  split
  · rfl
  · rfl
  · rfl
  · rfl
  · rfl
  · rfl
  · rfl
  · rename_i hquote hslash _ _ _ _ _
    split
    · rename_i hcontrol
      rw [readFrom.eq_def]
      simp only [List.cons_append, List.nil_append, unicode_control hcontrol]
      rfl
    · rename_i hplain
      rw [List.cons_append, List.nil_append, readFrom]
      · rw [if_neg hplain]
      · exact fun h _ => hslash h
      · exact hquote
      · exact fun _ h _ => hslash h
      · exact fun _ _ h _ => hslash h

theorem readFrom_escaped (s : List Char) {fuel : ℕ} (hfuel : s.length < fuel)
    (rest acc : List Char) : readFrom fuel (s.flatMap escapeChar ++ '"' :: rest) acc =
      .ok (String.ofList (acc.reverse ++ s), rest) := by
  induction s generalizing fuel acc with
  | nil =>
    obtain ⟨fuel, rfl⟩ := Nat.exists_eq_add_of_lt hfuel
    simp [readFrom]
  | cons c s ih =>
    rw [List.length_cons] at hfuel
    obtain ⟨fuel, rfl⟩ : ∃ k, fuel = k + 1 := ⟨fuel - 1, by omega⟩
    rw [List.flatMap_cons, List.append_assoc, readFrom_escapeChar, ih (by omega)]
    simp

end Quotation

theorem escapeChar_ne_nil (c : Char) : escapeChar c ≠ [] := by
  unfold escapeChar
  split <;> try simp
  split <;> simp

theorem length_le_flatMap_escapeChar (s : List Char) :
    s.length ≤ (s.flatMap escapeChar).length := by
  induction s with
  | nil => simp
  | cons c s ih =>
    have hpos := List.length_pos_iff.mpr (escapeChar_ne_nil c)
    rw [List.flatMap_cons, List.length_append, List.length_cons]
    omega

theorem quoted_append (s : String) (rest : List Char) :
    quoted s ++ rest = '"' :: (s.toList.flatMap escapeChar ++ '"' :: rest) := by
  simp [quoted]

/-- A quoted text is read back from behind its opening quote. -/
theorem read_quoted (s : String) (rest : List Char) :
    Quotation.read (s.toList.flatMap escapeChar ++ '"' :: rest) = .ok (s, rest) := by
  have hlen := length_le_flatMap_escapeChar s.toList
  unfold Quotation.read
  rw [Quotation.readFrom_escaped s.toList (by rw [List.length_append]; omega)]
  simp

end Workflow.Json
