import Workflow.Proofs.Text.Search
import Workflow.Template

/-! The shape of a placeholder: two braces on each side, and between them a name with white space
around it. -/
namespace Workflow

namespace Text

theorem isBlank_eq_false {c : Char} (hlow : 33 ≤ c.toNat) (hhigh : c.toNat < 128) :
    isBlank c = false := by
  rw [isBlank, CharSet.mem, blanks]
  simp only [CharSet.inside]
  grind

end Text

namespace Template

theorem isAlphanum_bounds {c : Char} (h : c.isAlphanum = true) :
    33 ≤ c.toNat ∧ c.toNat < 128 := by
  rcases Bool.or_eq_true_iff.mp h with halpha | hdigit
  · rcases Bool.or_eq_true_iff.mp halpha with hupper | hlower
    · have hrange : 65 ≤ c.toNat ∧ c.toNat ≤ 90 := of_decide_eq_true hupper
      omega
    · have hrange : 97 ≤ c.toNat ∧ c.toNat ≤ 122 :=
        (Bool.and_eq_true_iff.mp hlower).imp of_decide_eq_true of_decide_eq_true
      omega
  · have hrange : 48 ≤ c.toNat ∧ c.toNat ≤ 57 := Char.isDigit_iff_toNat.mp hdigit
    omega

theorem isBlank_of_isNameChar {c : Char} (h : isNameChar c = true) : Text.isBlank c = false := by
  simp only [isNameChar, startsName, Bool.or_eq_true, beq_iff_eq] at h
  rcases h with (((h | rfl) | rfl) | rfl) | rfl
  · exact Text.isBlank_eq_false (isAlphanum_bounds h).1 (isAlphanum_bounds h).2
  all_goals decide

/-- The text of a name, as it may stand in a placeholder. -/
def IsName (name : List Char) : Prop :=
  (∃ c s, name = c :: s ∧ startsName c = true) ∧ ∀ c ∈ name, isNameChar c = true

/-- A placeholder of the name stands at the beginning of the text, and `rest` behind it. -/
def Holds (s name rest : List Char) : Prop :=
  ∃ before after, s = '\x7b' :: '\x7b' :: before ++ name ++ after ++ '\x7d' :: '\x7d' :: rest ∧
    (∀ c ∈ before, Text.isBlank c = true) ∧ (∀ c ∈ after, Text.isBlank c = true) ∧ IsName name

theorem placeholder?_eq_some_iff {s name rest : List Char} :
    placeholder? s = some (name, rest) ↔ Holds s name rest := by
  refine ⟨fun h => ?_, fun h => ?_⟩
  · unfold placeholder? at h
    split at h
    · rename_i s
      dsimp only at h
      split at h
      · cases h
      · rename_i c r hs
        split at h
        · rename_i hc
          split at h
          · rename_i rest' hclose
            cases h
            refine ⟨s.takeWhile Text.isBlank,
              ((s.dropWhile Text.isBlank).dropWhile isNameChar).takeWhile Text.isBlank, ?_,
              fun _ => List.mem_takeWhile_imp, fun _ => List.mem_takeWhile_imp, ⟨c, ?_⟩,
              fun _ => List.mem_takeWhile_imp⟩
            · rw [List.append_assoc, ← hclose, List.takeWhile_append_dropWhile, List.append_assoc,
                List.takeWhile_append_dropWhile, List.cons_append, List.cons_append,
                List.takeWhile_append_dropWhile]
            · refine ⟨r.takeWhile isNameChar, ?_, hc⟩
              rw [hs, List.takeWhile_cons_of_pos (by rw [isNameChar, hc]; rfl)]
          · cases h
        · cases h
    · cases h
  · obtain ⟨before, after, rfl, hbefore, hafter, ⟨c, s, rfl, hc⟩, hname⟩ := h
    have hblank : Text.isBlank c = false := isBlank_of_isNameChar (hname c (by simp))
    -- What follows the name is white space or a brace, and neither belongs to a name.
    obtain ⟨d, r, hd, hdname⟩ : ∃ d r, after ++ '\x7d' :: '\x7d' :: rest = d :: r ∧
        isNameChar d = false := by
      cases after with
      | nil => exact ⟨_, _, rfl, by decide⟩
      | cons d after =>
        refine ⟨d, _, rfl, Bool.eq_false_iff.mpr fun h => ?_⟩
        exact absurd (hafter d (by simp)) (by simp [isBlank_of_isNameChar h])
    obtain ⟨htake, hdrop⟩ := Text.span_append (c := d) hname hdname
    have hclose : (after ++ '\x7d' :: '\x7d' :: rest).dropWhile Text.isBlank =
        '\x7d' :: '\x7d' :: rest := (Text.span_append hafter (by decide)).2
    rw [← hd] at htake hdrop
    simp only [List.cons_append, List.append_assoc] at htake hdrop ⊢
    rw [placeholder?, (Text.span_append hbefore hblank).2]
    simp only [hc, if_true]
    rw [hdrop, hclose, htake]
    rfl

end Template
end Workflow
