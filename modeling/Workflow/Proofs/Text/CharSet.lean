import Workflow.Text.CharSet
import Mathlib.Data.List.Basic

/-! Unions of sets of characters, by the lists of their boundaries. -/
namespace Workflow.Text.CharSet

/-- The boundaries are in increasing order. -/
def Increasing (s : CharSet) : Prop := s.bounds.Pairwise (· < ·)

theorem inside_of_forall_lt {bs : List ℕ} {n : ℕ} (h : ∀ b ∈ bs, n < b) : inside bs n = false := by
  cases bs with
  | nil => rfl
  | cons b bs => rw [inside, if_pos (h b List.mem_cons_self)]

theorem inside_cons_of_le {b n : ℕ} (bs : List ℕ) (h : b ≤ n) :
    inside (b :: bs) n = !inside bs n := by rw [inside, if_neg (Nat.not_lt.mpr h)]

/-! ### Sweeping over two lists -/

section Sweep

variable {f : Bool → Bool → Bool} {a b cur : Bool} {xs ys : List ℕ}

theorem mem_of_mem_step {x z : ℕ} {rest : List ℕ} (h : z ∈ sweep.step f a b cur x rest) :
    z = x ∨ z ∈ rest := by
  unfold sweep.step at h
  split at h
  · exact Or.inr h
  · exact List.mem_cons.mp h

theorem step_increasing {x : ℕ} {rest : List ℕ} (hrest : rest.Pairwise (· < ·))
    (hx : ∀ z ∈ rest, x < z) : (sweep.step f a b cur x rest).Pairwise (· < ·) := by
  unfold sweep.step
  split
  · exact hrest
  · exact List.pairwise_cons.mpr ⟨hx, hrest⟩

/-- Membership changes at a boundary to what follows from the memberships behind it. -/
theorem inside_step {x n : ℕ} {rest : List ℕ} (hx : ∀ z ∈ rest, x < z) :
    (cur ^^ inside (sweep.step f a b cur x rest) n) =
      if n < x then cur else f a b ^^ inside rest n := by
  have hbefore : n < x → inside rest n = false := fun hn =>
    inside_of_forall_lt fun z hz => Nat.lt_trans hn (hx z hz)
  unfold sweep.step
  by_cases hn : n < x
  · rw [if_pos hn]
    split
    · rw [hbefore hn, Bool.xor_false]
    · rw [inside, if_pos hn, Bool.xor_false]
  · rw [if_neg hn]
    split
    · rename_i heq
      rw [heq]
    · rename_i hne
      rw [inside_cons_of_le rest (Nat.not_lt.mp hn)]
      cases hf : f a b <;> cases cur <;> simp_all

theorem mem_of_mem_sweep {z : ℕ} (h : z ∈ sweep f a b cur xs ys) : z ∈ xs ∨ z ∈ ys := by
  fun_induction sweep f a b cur xs ys <;> grind [mem_of_mem_step]

/-- What lies below both lists lies below the sweep. -/
theorem lt_of_mem_sweep {x z : ℕ} (hx : ∀ z ∈ xs, x < z) (hy : ∀ z ∈ ys, x < z)
    (h : z ∈ sweep f a b cur xs ys) : x < z :=
  (mem_of_mem_sweep h).elim (hx z) (hy z)

theorem forall_mem_cons_lt {x y : ℕ} (hxy : x < y) (hy : ∀ z ∈ ys, y < z) :
    ∀ z ∈ y :: ys, x < z :=
  List.forall_mem_cons.mpr ⟨hxy, fun z hz => Nat.lt_trans hxy (hy z hz)⟩

theorem sweep_increasing (hx : xs.Pairwise (· < ·)) (hy : ys.Pairwise (· < ·)) :
    (sweep f a b cur xs ys).Pairwise (· < ·) := by
  fun_induction sweep f a b cur xs ys with
  | case1 => exact List.Pairwise.nil
  | case2 a b cur x xs ih =>
    obtain ⟨hlow, hxs⟩ := List.pairwise_cons.mp hx
    exact step_increasing (ih hxs hy) fun _ => lt_of_mem_sweep hlow (List.forall_mem_nil _)
  | case3 a b cur y ys ih =>
    obtain ⟨hlow, hys⟩ := List.pairwise_cons.mp hy
    exact step_increasing (ih hx hys) fun _ => lt_of_mem_sweep (List.forall_mem_nil _) hlow
  | case4 a b cur x xs y ys hxy ih =>
    obtain ⟨hlow, hxs⟩ := List.pairwise_cons.mp hx
    exact step_increasing (ih hxs hy) fun _ =>
      lt_of_mem_sweep hlow (forall_mem_cons_lt hxy (List.pairwise_cons.mp hy).1)
  | case5 a b cur x xs y ys _ hyx ih =>
    obtain ⟨hlow, hys⟩ := List.pairwise_cons.mp hy
    exact step_increasing (ih hx hys) fun _ =>
      lt_of_mem_sweep (forall_mem_cons_lt hyx (List.pairwise_cons.mp hx).1) hlow
  | case6 a b cur x xs y ys hxy hyx ih =>
    obtain ⟨hlow, hxs⟩ := List.pairwise_cons.mp hx
    obtain ⟨hlow', hys⟩ := List.pairwise_cons.mp hy
    obtain rfl : x = y := by omega
    exact step_increasing (ih hxs hys) fun _ => lt_of_mem_sweep hlow hlow'

theorem xor_inside_cons (a : Bool) (x : ℕ) (xs : List ℕ) (n : ℕ) :
    (a ^^ inside (x :: xs) n) = if n < x then a else !a ^^ inside xs n := by
  rw [inside]
  split <;> simp

/-- A sweep that starts with the memberships `a` and `b` tells how `f` of the
memberships goes on. -/
theorem inside_sweep (hx : xs.Pairwise (· < ·)) (hy : ys.Pairwise (· < ·)) (hcur : cur = f a b)
    (n : ℕ) : (cur ^^ inside (sweep f a b cur xs ys) n) =
      f (a ^^ inside xs n) (b ^^ inside ys n) := by
  -- In front of the first boundary both lists are still where they started.
  have hbefore {x : ℕ} {zs : List ℕ} (hzs : ∀ z ∈ zs, x < z) (hn : n < x) : inside zs n = false :=
    inside_of_forall_lt fun z hz => Nat.lt_trans hn (hzs z hz)
  fun_induction sweep f a b cur xs ys with
  | case1 => simp [inside, hcur]
  | case2 a b cur x xs ih =>
    obtain ⟨hlow, hxs⟩ := List.pairwise_cons.mp hx
    rw [inside_step fun _ => lt_of_mem_sweep hlow (List.forall_mem_nil _), ih hxs hy rfl,
      xor_inside_cons a]
    split
    · simp [hcur, inside]
    · rfl
  | case3 a b cur y ys ih =>
    obtain ⟨hlow, hys⟩ := List.pairwise_cons.mp hy
    rw [inside_step fun _ => lt_of_mem_sweep (List.forall_mem_nil _) hlow, ih hx hys rfl,
      xor_inside_cons b]
    split
    · simp [hcur, inside]
    · rfl
  | case4 a b cur x xs y ys hxy ih =>
    obtain ⟨hlow, hxs⟩ := List.pairwise_cons.mp hx
    have hlow' := forall_mem_cons_lt hxy (List.pairwise_cons.mp hy).1
    rw [inside_step fun _ => lt_of_mem_sweep hlow hlow', ih hxs hy rfl, xor_inside_cons a]
    split
    · rename_i hn
      rw [hbefore hlow' hn, hcur, Bool.xor_false]
    · rfl
  | case5 a b cur x xs y ys _ hyx ih =>
    obtain ⟨hlow, hys⟩ := List.pairwise_cons.mp hy
    have hlow' := forall_mem_cons_lt hyx (List.pairwise_cons.mp hx).1
    rw [inside_step fun _ => lt_of_mem_sweep hlow' hlow, ih hx hys rfl, xor_inside_cons b]
    split
    · rename_i hn
      rw [hbefore hlow' hn, hcur, Bool.xor_false]
    · rfl
  | case6 a b cur x xs y ys hxy hyx ih =>
    obtain ⟨hlow, hxs⟩ := List.pairwise_cons.mp hx
    obtain ⟨hlow', hys⟩ := List.pairwise_cons.mp hy
    obtain rfl : x = y := by omega
    rw [inside_step fun _ => lt_of_mem_sweep hlow hlow', ih hxs hys rfl, xor_inside_cons a,
      xor_inside_cons b]
    split
    · exact hcur
    · rfl

end Sweep

/-! ### Unions -/

theorem Increasing.union {s t : CharSet} (hs : s.Increasing) (ht : t.Increasing) :
    (s.union t).Increasing := sweep_increasing hs ht

theorem inside_union {s t : CharSet} (hs : s.Increasing) (ht : t.Increasing) (n : ℕ) :
    inside (s.union t).bounds n = (inside s.bounds n || inside t.bounds n) := by
  have h := inside_sweep (f := (· || ·)) (a := false) (b := false) hs ht rfl n
  rw [Bool.false_xor, Bool.false_xor] at h
  rw [← h, Bool.or_self, Bool.false_xor]
  rfl

/-- A property of sets of characters that holds of the empty set and of unions holds of the union of
many sets that have it. -/
theorem all_induction {P : CharSet → Prop} (hempty : P empty)
    (hunion : ∀ s t, P s → P t → P (s.union t)) {ss : List CharSet} (h : ∀ s ∈ ss, P s) :
    P (all ss) := by
  rw [all]
  generalize empty = s at hempty
  induction ss generalizing s with
  | nil => exact hempty
  | cons t ss ih =>
    exact ih (fun u hu => h u (List.mem_cons_of_mem t hu)) (s.union t)
      (hunion s t hempty (h t List.mem_cons_self))

end Workflow.Text.CharSet
