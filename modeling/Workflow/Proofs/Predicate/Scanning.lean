import Workflow.Predicate.Token
import Workflow.Proofs.Except
import Mathlib.Data.List.Basic

/-! What the tokens of a text are, and that scanning finds them: its fuel never runs out. -/
namespace Workflow.Predicate

/-- The tokens of a text, given whether an operand stands right before it. -/
inductive Tokens : Bool → List Char → List Token → Prop
  | nil (afterOperand : Bool) : Tokens afterOperand [] []
  | blank {afterOperand : Bool} {c : Char} {s : List Char} {ts : List Token} :
      Text.isBlank c = true → Tokens afterOperand s ts → Tokens afterOperand (c :: s) ts
  | token {afterOperand : Bool} {c : Char} {s rest : List Char} {t : Token} {ts : List Token} :
      Text.isBlank c = false → scanToken afterOperand c s = .ok (t, rest) →
      Tokens t.endsOperand rest ts → Tokens afterOperand (c :: s) (t :: ts)

theorem scanString_length {quote : Char} {acc s text rest : List Char}
    (h : scanString quote acc s = some (text, rest)) : rest.length ≤ s.length := by
  fun_induction scanString quote acc s with
  | case1 | case2 => cases h
  | case3 acc c s ih =>
    have hrest := ih h
    simp only [List.length_cons]
    omega
  | case4 acc s =>
    cases h
    exact Nat.le_succ _
  | case5 acc c s _ _ _ ih => exact Nat.le_succ_of_le (ih h)

/-- A token is made of characters of the text. -/
theorem scanToken_length {afterOperand : Bool} {c : Char} {s rest : List Char} {t : Token}
    (h : scanToken afterOperand c s = .ok (t, rest)) : rest.length ≤ s.length := by
  revert h
  fun_cases scanToken afterOperand c s with
  | case4 | case6 | case7 | case12 | case15 => nofun
  | case1 | case2 | case9 | case10 | case11 =>
    rintro ⟨⟩
    exact Nat.le_refl _
  | case5 | case8 =>
    rintro ⟨⟩
    exact Nat.le_succ _
  | case3 _ _ _ _ _ _ hr =>
    rintro ⟨⟩
    exact scanString_length hr
  | case13 =>
    intro h
    obtain ⟨token, -, hok⟩ := bind_eq_ok.mp h
    cases hok
    exact (List.dropWhile_sublist _).length_le
  | case14 =>
    rintro ⟨⟩
    exact (List.dropWhile_sublist _).length_le

theorem scanFrom_eq_ok_iff {fuel : Nat} {afterOperand : Bool} {s : List Char} {ts : List Token}
    (hfuel : s.length ≤ fuel) :
    scanFrom fuel afterOperand s = .ok ts ↔ Tokens afterOperand s ts := by
  induction fuel generalizing afterOperand s ts with
  | zero =>
    obtain rfl := List.eq_nil_of_length_eq_zero (Nat.le_zero.mp hfuel)
    refine ⟨fun h => ?_, fun h => ?_⟩
    · cases h
      exact .nil _
    · cases h
      rfl
  | succ fuel ih =>
    cases s with
    | nil =>
      refine ⟨fun h => ?_, fun h => ?_⟩
      · cases h
        exact .nil _
      · cases h
        rfl
    | cons c s =>
      rw [List.length_cons, Nat.add_le_add_iff_right] at hfuel
      rw [scanFrom]
      split
      · rename_i hc
        rw [ih hfuel]
        refine ⟨.blank hc, fun h => ?_⟩
        cases h with
        | blank _ h => exact h
        | token hc' => rw [hc] at hc'; cases hc'
      · rename_i hc
        rw [Bool.not_eq_true] at hc
        refine ⟨fun h => ?_, fun h => ?_⟩
        · obtain ⟨⟨t, rest⟩, ht, h⟩ := bind_eq_ok.mp h
          obtain ⟨us, hus, hok⟩ := bind_eq_ok.mp h
          cases hok
          exact .token hc ht ((ih (Nat.le_trans (scanToken_length ht) hfuel)).mp hus)
        · cases h with
          | blank hc' => rw [hc] at hc'; cases hc'
          | token _ ht hus =>
            refine bind_eq_ok.mpr ⟨_, ht, bind_eq_ok.mpr ⟨_, ?_, rfl⟩⟩
            exact (ih (Nat.le_trans (scanToken_length ht) hfuel)).mpr hus

theorem scan_eq_ok_iff {text : String} {ts : List Token} :
    scan text = .ok ts ↔ Tokens false text.toList ts := scanFrom_eq_ok_iff (Nat.le_refl _)

end Workflow.Predicate
