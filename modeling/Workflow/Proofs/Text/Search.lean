import Mathlib.Data.List.Infix
import Mathlib.Data.List.TakeWhile
import Workflow.Text.Blank
import Workflow.Text.Search

/-! Parts of a text: when they occur in it, how it is split at them, what replacing them does, and
numbers among them. -/
namespace Workflow.Text

/-! ### Occurrences -/

theorem occursIn_iff_infix {needle s : List Char} :
    occursIn needle s = true ↔ needle <:+: s := by
  induction s with
  | nil => rw [occursIn, List.isEmpty_iff, List.infix_nil]
  | cons c s ih =>
    rw [occursIn, Bool.or_eq_true, List.isPrefixOf_iff_prefix, ih, List.infix_cons_iff]

/-- A text that does not have a character occurs on one side of it. -/
theorem infix_append_cons_iff {needle before behind : List Char} {c : Char} (h : c ∉ needle) :
    needle <:+: before ++ c :: behind ↔ needle <:+: before ∨ needle <:+: behind := by
  constructor
  · intro hin
    rcases List.infix_append_iff_ne_nil.mp hin with hbefore | hrest | ⟨s, t, -, ht, rfl, -, hlead⟩
    · exact .inl hbefore
    · rcases List.infix_cons_iff.mp hrest with hlead | hbehind
      · cases needle with
        | nil => exact .inl List.nil_infix
        | cons d needle =>
          obtain ⟨rfl, -⟩ := List.cons_prefix_cons.mp hlead
          exact absurd List.mem_cons_self h
      · exact .inr hbehind
    · -- A part across the character would begin with it behind `before`.
      cases t with
      | nil => exact absurd rfl ht
      | cons d t =>
        obtain ⟨rfl, -⟩ := List.cons_prefix_cons.mp hlead
        exact absurd (List.mem_append_right s List.mem_cons_self) h
  · rintro (hbefore | hbehind)
    · exact List.infix_append_of_infix_left hbefore
    · exact List.infix_append_of_infix_right (List.infix_cons hbehind)

/-- A text does not begin where its first character does not stand. -/
theorem cons_infix_append_iff {needle before behind : List Char} {c : Char} (h : c ∉ before) :
    c :: needle <:+: before ++ behind ↔ c :: needle <:+: behind := by
  constructor
  · intro hin
    rcases List.infix_append_iff_ne_nil.mp hin with
      hbefore | hbehind | ⟨s, t, hs, -, heq, hsuffix, -⟩
    · exact absurd (hbefore.subset List.mem_cons_self) h
    · exact hbehind
    · cases s with
      | nil => exact absurd rfl hs
      | cons d s =>
        obtain ⟨rfl, -⟩ := List.cons.inj heq
        exact absurd (hsuffix.subset List.mem_cons_self) h
  · exact List.infix_append_of_infix_right

theorem exists_cons_of_head? {p : Char → Bool} {s : List Char} (h : s.head?.any p = true) :
    ∃ c rest, s = c :: rest ∧ p c = true := by
  cases s with
  | nil => cases h
  | cons c rest => exact ⟨c, rest, rfl, h⟩

/-! ### Splitting -/

/-- The run of characters with a property ends where one stands that does not have it. -/
theorem span_append {p : Char → Bool} {s : List Char} {c : Char} {rest : List Char}
    (hs : ∀ c ∈ s, p c = true) (hc : p c = false) :
    (s ++ c :: rest).takeWhile p = s ∧ (s ++ c :: rest).dropWhile p = c :: rest := by
  have hneg : ¬ p c = true := by rw [hc]; exact Bool.false_ne_true
  rw [List.takeWhile_append_of_pos hs, List.dropWhile_append_of_pos hs,
    List.takeWhile_cons_of_neg hneg, List.dropWhile_cons_of_neg hneg, List.append_nil]
  exact ⟨rfl, rfl⟩

theorem takeWhile_of_not_mem {sep : Char} {part : List Char} (h : sep ∉ part) :
    part.takeWhile (· != sep) = part :=
  List.takeWhile_eq_self_iff.mpr fun _ hc => bne_iff_ne.mpr (ne_of_mem_of_not_mem hc h)

/-- The part before a separator ends there. -/
theorem takeWhile_append_cons {sep : Char} {part : List Char} (h : sep ∉ part) (rest : List Char) :
    (part ++ sep :: rest).takeWhile (· != sep) = part :=
  (span_append (fun _ hc => bne_iff_ne.mpr (ne_of_mem_of_not_mem hc h)) (bne_self_eq_false _)).1

theorem splitAt_eq (sep : Char) (s : List Char) :
    ∃ parts, splitAt sep s = s.takeWhile (· != sep) :: parts := by
  induction s with
  | nil => exact ⟨[], rfl⟩
  | cons c s ih =>
    obtain ⟨parts, hparts⟩ := ih
    rw [splitAt, hparts]
    by_cases hc : c = sep
    · rw [if_pos hc, List.takeWhile_cons_of_neg (by simp [hc])]
      exact ⟨_, rfl⟩
    · rw [if_neg hc, List.takeWhile_cons_of_pos (by simp [hc])]
      exact ⟨_, rfl⟩

theorem splitAt_of_not_mem {sep : Char} {part : List Char} (h : sep ∉ part) :
    splitAt sep part = [part] := by
  induction part with
  | nil => rfl
  | cons c part ih =>
    rw [List.mem_cons, not_or] at h
    rw [splitAt, if_neg (Ne.symm h.1), ih h.2]

theorem splitAt_append_cons {sep : Char} {part : List Char} (h : sep ∉ part) (rest : List Char) :
    splitAt sep (part ++ sep :: rest) = part :: splitAt sep rest := by
  induction part with
  | nil => rw [List.nil_append, splitAt, if_pos rfl]
  | cons c part ih =>
    rw [List.mem_cons, not_or] at h
    rw [List.cons_append, splitAt, if_neg (Ne.symm h.1), ih h.2]

/-- Parts without the separator are found again. -/
theorem splitAt_joined {sep : Char} {part : List Char} {parts : List (List Char)}
    (hpart : sep ∉ part) (hparts : ∀ more ∈ parts, sep ∉ more) :
    splitAt sep (part ++ parts.flatMap (sep :: ·)) = part :: parts := by
  induction parts generalizing part with
  | nil => rw [List.flatMap_nil, List.append_nil, splitAt_of_not_mem hpart]
  | cons more parts ih =>
    obtain ⟨hmore, hparts⟩ := List.forall_mem_cons.mp hparts
    rw [List.flatMap_cons, List.cons_append, splitAt_append_cons hpart, ih hmore hparts]

theorem intercalate_cons (sep : Char) (part : List Char) (parts : List (List Char)) :
    [sep].intercalate (part :: parts) = part ++ parts.flatMap (sep :: ·) := by
  induction parts generalizing part with
  | nil => simp
  | cons more parts ih =>
    rw [List.intercalate_cons_cons, ih, List.flatMap_cons, List.append_assoc, List.singleton_append,
      List.cons_append]

/-! ### Replacing -/

variable (rule : Rule)

theorem substituteFrom_append (s rest : List Char) :
    substituteFrom rule s.length (s ++ rest) = substituteFrom rule 0 rest := by
  induction s with
  | nil => rfl
  | cons c s ih => exact ih

theorem substituteFrom_of_length_le {n : ℕ} {s : List Char} (h : s.length ≤ n) :
    substituteFrom rule n s = [] := by
  induction s generalizing n with
  | nil => cases n <;> rfl
  | cons c s ih =>
    cases n with
    | zero => cases h
    | succ n => exact ih (Nat.le_of_succ_le_succ h)

variable {rule}

theorem substitute_cons_of_none {c : Char} {s : List Char} (h : rule (c :: s) = none) :
    substitute rule (c :: s) = c :: substitute rule s := by
  unfold substitute
  rw [substituteFrom, h]

/-- A part in which the rule finds nothing, whatever stands behind it, stays. -/
theorem substitute_append_of_none {s : List Char} (h : ∀ c ∈ s, ∀ r, rule (c :: r) = none)
    (rest : List Char) : substitute rule (s ++ rest) = s ++ substitute rule rest := by
  induction s with
  | nil => rfl
  | cons c s ih =>
    obtain ⟨hc, hs⟩ := List.forall_mem_cons.mp h
    rw [List.cons_append, substitute_cons_of_none (hc _), ih hs, List.cons_append]

/-- What the rule finds gives way, and the rest is looked at from there on. -/
theorem substitute_append_of_some {part rest new : List Char} (hne : part ≠ [])
    (h : rule (part ++ rest) = some (part.length, new)) :
    substitute rule (part ++ rest) = new ++ substitute rule rest := by
  cases part with
  | nil => exact absurd rfl hne
  | cons c part =>
    rw [List.cons_append] at h ⊢
    unfold substitute
    rw [substituteFrom, h]
    exact congrArg (new ++ ·) (substituteFrom_append rule part rest)

/-- The rule that finds one part. -/
def exactly (old new : List Char) : Rule := fun s =>
  if old.isPrefixOf s then some (old.length, new) else none

theorem replace_eq_substitute (old new s : List Char) :
    replace old new s = substitute (exactly old new) s := by
  have hfrom : ∀ skip, replaceFrom old new skip s = substituteFrom (exactly old new) skip s := by
    induction s with
    | nil => intro skip; cases skip <;> rfl
    | cons c s ih =>
      intro skip
      cases skip with
      | zero =>
        rw [replaceFrom, substituteFrom, exactly]
        split
        · rw [ih]
        · rw [ih]
      | succ skip => exact ih skip
  exact hfrom 0

/-! ### Trimming -/

/-- The same text without the white space at its ends. -/
def Trims (s v : List Char) : Prop :=
  ∃ before after, s = before ++ v ++ after ∧ (∀ c ∈ before, isBlank c = true) ∧
    (∀ c ∈ after, isBlank c = true) ∧ (∀ c ∈ v.head?, isBlank c = false) ∧
    ∀ c ∈ v.getLast?, isBlank c = false

theorem dropWhile_of_head? {p : Char → Bool} {s : List Char} (h : ∀ c ∈ s.head?, p c = false) :
    s.dropWhile p = s := by
  cases s with
  | nil => rfl
  | cons c s => exact List.dropWhile_cons_of_neg (by simpa using h c rfl)

theorem head?_dropWhile {p : Char → Bool} (s : List Char) :
    ∀ c ∈ (s.dropWhile p).head?, p c = false := by
  intro c hc
  have h := List.head?_dropWhile_not p s
  rw [hc] at h
  simpa using h

theorem trimStart_eq (s : List Char) :
    trimStart s = trim s ++ ((trimStart s).reverse.takeWhile isBlank).reverse := by
  rw [trim, trimEnd, ← List.reverse_append, List.takeWhile_append_dropWhile, List.reverse_reverse]

theorem exists_eq_trim (s : List Char) : ∃ before after, s = before ++ trim s ++ after ∧
    (∀ c ∈ before, isBlank c = true) ∧ ∀ c ∈ after, isBlank c = true := by
  refine ⟨s.takeWhile isBlank, ((trimStart s).reverse.takeWhile isBlank).reverse, ?_, ?_, ?_⟩
  · rw [List.append_assoc, ← trimStart_eq, trimStart, List.takeWhile_append_dropWhile]
  · exact fun c => List.mem_takeWhile_imp
  · exact fun c hc => List.mem_takeWhile_imp (List.mem_reverse.mp hc)

theorem trims_trim (s : List Char) : Trims s (trim s) := by
  obtain ⟨before, after, hs, hbefore, hafter⟩ := exists_eq_trim s
  refine ⟨before, after, hs, hbefore, hafter, fun c hc => ?_, fun c hc => ?_⟩
  · have hstart : c ∈ (trimStart s).head? := by
      rw [trimStart_eq, List.head?_append, hc]
      rfl
    exact head?_dropWhile s c hstart
  · rw [trim, trimEnd, List.getLast?_reverse] at hc
    exact head?_dropWhile _ c hc

theorem Trims.trim_eq {s v : List Char} (h : Trims s v) : trim s = v := by
  obtain ⟨before, after, rfl, hbefore, hafter, hhead, hlast⟩ := h
  have hend : trimEnd (v ++ after) = v := by
    have hreverse : ∀ c ∈ after.reverse, isBlank c = true :=
      fun c hc => hafter c (List.mem_reverse.mp hc)
    rw [trimEnd, List.reverse_append, List.dropWhile_append_of_pos hreverse,
      dropWhile_of_head? (by rwa [List.head?_reverse]), List.reverse_reverse]
  rw [trim, trimStart, List.append_assoc, List.dropWhile_append_of_pos hbefore]
  cases v with
  | nil => rw [List.nil_append, List.dropWhile_eq_nil_iff.mpr hafter]; rfl
  | cons c v => rw [dropWhile_of_head? (by simpa using hhead), hend]

/-- Trimming takes away the white space at the ends and no more. -/
theorem trims_iff {s v : List Char} : Trims s v ↔ trim s = v := by
  constructor
  · exact Trims.trim_eq
  · rintro rfl
    exact trims_trim s

/-! ### Numbers -/

theorem isDigit_of_mem_toString {n : ℕ} {c : Char} (h : c ∈ (toString n).toList) :
    c.isDigit = true := by
  have hdigits : c ∈ Nat.toDigits 10 n := by simpa using h
  exact Nat.isDigit_of_mem_toDigits (by decide) (by decide) hdigits

theorem toList_toString_ne_nil (n : ℕ) : (toString n).toList ≠ [] := by
  simp [Nat.toDigits_ne_nil]

/-- A number is read back from its digits. -/
theorem index?_toString (n : ℕ) : index? (toString n).toList = some n := by
  have hplus : ∀ rest, (toString n).toList ≠ '+' :: rest := by
    intro rest heq
    have hdigit : '+'.isDigit = true := isDigit_of_mem_toString (heq ▸ List.mem_cons_self)
    exact absurd hdigit (by decide)
  have hall : (toString n).toList.all Char.isDigit = true :=
    List.all_eq_true.mpr fun c hc => isDigit_of_mem_toString hc
  have hempty : (toString n).toList.isEmpty = false := by
    rw [List.isEmpty_eq_false_iff]
    exact toList_toString_ne_nil n
  have hvalue : (toString n).toList.foldl (fun m c => 10 * m + (c.toNat - 48)) 0 = n := by
    have hdigits := Nat.ofDigitChars_ten_toDigits (n := n)
    rw [← Nat.toList_repr] at hdigits
    exact hdigits
  unfold index?
  split
  · exact absurd ‹_› (hplus _)
  · simp only [hempty, hall, hvalue, Bool.not_true, Bool.or_self, Bool.false_eq_true, if_false]

end Workflow.Text
