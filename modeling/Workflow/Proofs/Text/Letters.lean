import Workflow.Proofs.Text.CharSet
import Workflow.Text.Blank
import Workflow.Text.Letters

/-! No white space among the letters and the numbers. -/
namespace Workflow.Text

open CharSet

/-- White space lies outside the set, whose boundaries are in increasing order. -/
structure ApartFromBlanks (s : CharSet) : Prop where
  increasing : s.Increasing
  outside : ∀ n, inside blanks.bounds n = true → inside s.bounds n = false

namespace ApartFromBlanks

theorem empty : ApartFromBlanks empty := ⟨List.Pairwise.nil, fun _ _ => rfl⟩

theorem union {s t : CharSet} (hs : ApartFromBlanks s) (ht : ApartFromBlanks t) :
    ApartFromBlanks (s.union t) := by
  refine ⟨hs.increasing.union ht.increasing, fun n hn => ?_⟩
  rw [inside_union hs.increasing ht.increasing, hs.outside n hn, ht.outside n hn, Bool.or_false]

theorem all {ss : List CharSet} (h : ∀ s ∈ ss, ApartFromBlanks s) : ApartFromBlanks (all ss) :=
  all_induction empty (fun _ _ => union) h

end ApartFromBlanks

/-- The numbers from each boundary at an even place up to the next one. -/
def codes : List ℕ → List ℕ
  | lo :: hi :: bs => List.range' lo (hi - lo) ++ codes bs
  | _ => []

theorem mem_codes_blanks {n : ℕ} (h : inside blanks.bounds n = true) : n ∈ codes blanks.bounds := by
  simp only [blanks, inside, codes, List.mem_append, List.mem_range'_1] at h ⊢
  grind

theorem apart_of_codes {s : CharSet} (h : s.bounds.IsChain (· < ·) ∧
    ∀ n ∈ codes blanks.bounds, inside s.bounds n = false) : ApartFromBlanks s :=
  ⟨List.isChain_iff_pairwise.mp h.1, fun n hn => h.2 n (mem_codes_blanks hn)⟩

/-! ### The tables -/

theorem apart_otherAlphabetic : ApartFromBlanks Property.otherAlphabetic := by
  apply apart_of_codes
  rw [Property.otherAlphabetic, ofRanges, String.toList_ofList]
  decide +kernel

theorem apart_otherLowercase : ApartFromBlanks Property.otherLowercase := by
  apply apart_of_codes
  rw [Property.otherLowercase, ofRanges, String.toList_ofList]
  decide +kernel

theorem apart_otherUppercase : ApartFromBlanks Property.otherUppercase := by
  apply apart_of_codes
  rw [Property.otherUppercase, ofRanges, String.toList_ofList]
  decide +kernel

theorem apart_newLetters : ApartFromBlanks newLetters := by
  apply apart_of_codes
  rw [newLetters, ofRanges, String.toList_ofList]
  decide +kernel

theorem apart_newNumbers : ApartFromBlanks newNumbers := by
  apply apart_of_codes
  rw [newNumbers, ofRanges, String.toList_ofList]
  decide +kernel

theorem apart_assigned {k : Category} (hk : k ∈ Category.letters ++ Category.numbers) :
    ApartFromBlanks k.assigned := by
  cases k with
  | uppercaseLetter | lowercaseLetter | titlecaseLetter | modifierLetter | otherLetter
  | decimalNumber | letterNumber | otherNumber =>
    apply apart_of_codes
    rw [Category.assigned, ofRanges, String.toList_ofList]
    decide +kernel
  | _ => exact absurd hk (by decide)

theorem apart_members {k : Category} (hk : k ∈ Category.letters ++ Category.numbers) :
    ApartFromBlanks k.members := by
  unfold Category.members
  split
  · exact absurd hk (by decide)
  · exact apart_assigned hk

/-! ### Letters and numbers -/

theorem apart_categories {ks : List Category} (hks : ks ⊆ Category.letters ++ Category.numbers) :
    ApartFromBlanks (Category.union ks) := by
  refine .all fun s hs => ?_
  obtain ⟨k, hk, rfl⟩ := List.mem_map.mp hs
  exact apart_members (hks hk)

theorem apart_alphabetic : ApartFromBlanks Property.alphabetic := by
  refine .all ?_
  simp only [List.forall_mem_cons]
  exact ⟨apart_categories (List.subset_append_left _ _), apart_members (by decide),
    (apart_members (by decide)).union apart_otherLowercase,
    (apart_members (by decide)).union apart_otherUppercase, apart_otherAlphabetic,
    List.forall_mem_nil _⟩

theorem apart_allLetters : ApartFromBlanks allLetters := apart_alphabetic.union apart_newLetters

theorem apart_allNumbers : ApartFromBlanks allNumbers :=
  (apart_categories (List.subset_append_right _ _)).union apart_newNumbers

theorem isLetterOrNumber_of_isLetter {c : Char} (h : isLetter c = true) :
    isLetterOrNumber c = true := by
  unfold isLetter at h
  unfold isLetterOrNumber
  split at h <;> simp_all [Char.isAlphanum]

/-- White space below 128 is one of six characters. -/
theorem isLetterOrNumber_of_isBlank {c : Char} (h : isBlank c = true) :
    isLetterOrNumber c = false := by
  unfold isLetterOrNumber
  split
  · rename_i hc
    have hcode : c.toNat ∈ [9, 10, 11, 12, 13, 32] := by
      have hmem := mem_codes_blanks h
      simp only [blanks, codes, List.mem_append, List.mem_range'_1, List.not_mem_nil,
        or_false] at hmem
      simp only [List.mem_cons, List.not_mem_nil, or_false]
      omega
    rw [← Char.ofNat_toNat c]
    generalize c.toNat = n at hcode
    revert n
    decide
  · rw [CharSet.mem, CharSet.mem, apart_allLetters.outside _ h, apart_allNumbers.outside _ h,
      Bool.or_false]

end Workflow.Text
