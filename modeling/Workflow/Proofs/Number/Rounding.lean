import Workflow.Number.Binary
import Mathlib.Algebra.Order.Field.Power
import Mathlib.Data.Rat.Cast.Order
import Mathlib.Tactic.FieldSimp
import Mathlib.Tactic.Linarith
import Mathlib.Tactic.LinearCombination
import Mathlib.Tactic.Positivity
import Mathlib.Tactic.Ring

/-! What rounding to a binary format gives: the nearest number of the format, and of two that are as
near the even one. -/
namespace Workflow.Binary

/-- A magnitude with its sign. -/
def signed (negative : Bool) (x : ℚ) : ℚ := if negative then -x else x

def value (x : Binary) : ℚ := signed x.negative (x.mantissa * 2 ^ x.exponent)

theorem scaled_mul_two_zpow {x : Binary} {e : ℤ} (he : e ≤ x.exponent) :
    (x.scaled e : ℚ) * 2 ^ e = x.value := by
  have hshift : (2 : ℚ) ^ (x.exponent - e).toNat * 2 ^ e = 2 ^ x.exponent := by
    rw [← zpow_natCast, ← zpow_add₀ two_ne_zero, Int.toNat_of_nonneg (by omega)]
    congr 1
    omega
  have hmagnitude : ((x.mantissa * Int.pow 2 (x.exponent - e).toNat : ℤ) : ℚ) * 2 ^ e =
      x.mantissa * 2 ^ x.exponent := by
    rw [← hshift, ← mul_assoc]
    congr 1
    change ((x.mantissa * (2 : ℤ) ^ (x.exponent - e).toNat : ℤ) : ℚ) = _
    push_cast
    rfl
  unfold scaled value signed
  cases x.negative
  · simpa using hmagnitude
  · simpa using hmagnitude

/-- Comparing compares the values. -/
theorem compare_values (x y : Binary) : x.compare y = Ord.compare x.value y.value := by
  have hpos : (0 : ℚ) < 2 ^ min x.exponent y.exponent := by positivity
  have hlt {a b : ℤ} (h : a < b) : (a : ℚ) * 2 ^ min x.exponent y.exponent <
      b * 2 ^ min x.exponent y.exponent := mul_lt_mul_of_pos_right (Int.cast_lt.mpr h) hpos
  rw [compare, ← scaled_mul_two_zpow (min_le_left x.exponent y.exponent),
    ← scaled_mul_two_zpow (min_le_right x.exponent y.exponent)]
  obtain h | h | h := lt_trichotomy (x.scaled (min x.exponent y.exponent))
    (y.scaled (min x.exponent y.exponent))
  · rw [compare_lt_iff_lt.mpr h, compare_lt_iff_lt.mpr (hlt h)]
  · rw [h, compare_eq_iff_eq.mpr rfl, compare_eq_iff_eq.mpr rfl]
  · rw [compare_gt_iff_gt.mpr h, compare_gt_iff_gt.mpr (hlt h)]

/-! ### Quotients rounded to integers -/

theorem ratio_eq_div_add_mod (num : ℕ) {den : ℕ} (hden : 0 < den) :
    (num : ℚ) / den = (num / den : ℕ) + ((num % den : ℕ) : ℚ) / den := by
  have hpos : (den : ℚ) ≠ 0 := Nat.cast_ne_zero.mpr hden.ne'
  have hnum : (num : ℚ) = den * (num / den : ℕ) + (num % den : ℕ) := by
    exact_mod_cast (Nat.div_add_mod num den).symm
  rw [div_eq_iff hpos, add_mul, div_mul_cancel₀ _ hpos, mul_comm _ (den : ℚ)]
  exact hnum

/-- A quotient is rounded by one half at most, and by just one half only to an even number. -/
theorem divEven_error (num : ℕ) {den : ℕ} (hden : 0 < den) :
    |(num : ℚ) / den - divEven num den| ≤ 1 / 2 ∧
    (|(num : ℚ) / den - divEven num den| = 1 / 2 → Even (divEven num den)) := by
  have hpos : (0 : ℚ) < den := Nat.cast_pos.mpr hden
  have hrest : ((num % den : ℕ) : ℚ) / den < 1 := by
    rw [div_lt_one hpos, Nat.cast_lt]
    exact Nat.mod_lt num hden
  have hnonneg : 0 ≤ ((num % den : ℕ) : ℚ) / den := by positivity
  rw [ratio_eq_div_add_mod num hden]
  unfold divEven
  dsimp only
  split_ifs with hless hmore
  · have hhalf : ((num % den : ℕ) : ℚ) / den < 1 / 2 := by
      rw [div_lt_iff₀ hpos]
      have : 2 * ((num % den : ℕ) : ℚ) < den := by exact_mod_cast hless
      linarith
    rw [add_sub_cancel_left, abs_of_nonneg hnonneg]
    exact ⟨hhalf.le, fun h => absurd h hhalf.ne⟩
  · have hhalf : 1 / 2 < ((num % den : ℕ) : ℚ) / den := by
      rw [lt_div_iff₀ hpos]
      have : (den : ℚ) < 2 * ((num % den : ℕ) : ℚ) := by exact_mod_cast hmore
      linarith
    push_cast
    rw [add_sub_add_left_eq_sub, abs_of_neg (by linarith)]
    exact ⟨by linarith, fun h => by linarith⟩
  · have hhalf : ((num % den : ℕ) : ℚ) / den = 1 / 2 := by
      rw [div_eq_iff hpos.ne']
      have : 2 * ((num % den : ℕ) : ℚ) = den := by exact_mod_cast (by omega : 2 * (num % den) = den)
      linarith
    rw [hhalf]
    refine ⟨?_, fun _ => Nat.even_iff.mpr (by omega)⟩
    obtain h | h := Nat.mod_two_eq_zero_or_one (num / den)
    · rw [h, add_zero, add_sub_cancel_left, abs_of_pos (by norm_num)]
    · rw [h]
      push_cast
      rw [add_sub_add_left_eq_sub]
      norm_num [abs_le]

theorem divEven_le {num den b : ℕ} (h : num < b * den) : divEven num den ≤ b := by
  have hdiv : num / den < b := Nat.div_lt_of_lt_mul (Nat.mul_comm b den ▸ h)
  have hdigit : num / den % 2 < 2 := Nat.mod_lt _ two_pos
  unfold divEven
  dsimp only
  split_ifs <;> omega

/-- An integer that is at most one half away is a nearest one, and the only one unless it is just
one half away. -/
theorem nearest_of_error {t : ℚ} {q : ℤ} (h : |t - q| ≤ 1 / 2) (k : ℤ) :
    |t - q| ≤ |t - k| ∧ (|t - k| = |t - q| → k ≠ q → |t - q| = 1 / 2 ∧ |k - q| = 1) := by
  by_cases hk : k = q
  · exact ⟨by rw [hk], fun _ hne => absurd hk hne⟩
  have hgap : 1 ≤ |k - q| := Int.one_le_abs (sub_ne_zero.mpr hk)
  have hgap' : (1 : ℚ) ≤ |(k : ℚ) - q| := by exact_mod_cast hgap
  have htriangle := abs_sub_le (k : ℚ) t q
  rw [abs_sub_comm (k : ℚ) t] at htriangle
  refine ⟨by linarith, fun htie _ => ⟨by linarith, le_antisymm ?_ hgap⟩⟩
  have : |(k : ℚ) - q| ≤ 1 := by linarith
  exact_mod_cast this

/-! ### The exponent -/

variable {f : Format} {num den : ℕ}

theorem inUnits_ratio (num : ℕ) (hden : 0 < den) (e : ℤ) :
    0 < (inUnits num den e).2 ∧
    ((inUnits num den e).1 : ℚ) / (inUnits num den e).2 = num / den / 2 ^ e := by
  unfold inUnits
  split
  · rename_i he
    refine ⟨hden, ?_⟩
    obtain ⟨k, rfl⟩ : ∃ k : ℕ, e = -k := ⟨e.natAbs, by omega⟩
    rw [Int.natAbs_neg, Int.natAbs_natCast, zpow_neg, zpow_natCast, div_inv_eq_mul]
    change ((num * 2 ^ k : ℕ) : ℚ) / den = _
    push_cast
    ring
  · rename_i he
    obtain ⟨k, rfl⟩ : ∃ k : ℕ, e = k := ⟨e.toNat, by omega⟩
    rw [Int.toNat_natCast, zpow_natCast]
    change 0 < den * 2 ^ k ∧ (num : ℚ) / ((den * 2 ^ k : ℕ) : ℚ) = _
    refine ⟨by positivity, ?_⟩
    push_cast
    rw [div_div]

/-- A quotient lies within a factor of two of the quotient of the leading powers of two. -/
theorem log2_bounds (hnum : 0 < num) (hden : 0 < den) :
    (2 : ℚ) ^ ((num.log2 : ℤ) - den.log2 - 1) ≤ num / den ∧
    (num : ℚ) / den < 2 ^ ((num.log2 : ℤ) - den.log2 + 1) := by
  have hpos : (0 : ℚ) < den := Nat.cast_pos.mpr hden
  have hnumlow : (2 : ℚ) ^ num.log2 ≤ num := by exact_mod_cast Nat.log2_self_le hnum.ne'
  have hnumhigh : (num : ℚ) < 2 ^ (num.log2 + 1) := by exact_mod_cast Nat.lt_log2_self
  have hdenlow : (2 : ℚ) ^ den.log2 ≤ den := by exact_mod_cast Nat.log2_self_le hden.ne'
  have hdenhigh : (den : ℚ) < 2 ^ (den.log2 + 1) := by exact_mod_cast Nat.lt_log2_self
  constructor
  · rw [le_div_iff₀ hpos]
    calc (2 : ℚ) ^ ((num.log2 : ℤ) - den.log2 - 1) * den
        ≤ 2 ^ ((num.log2 : ℤ) - den.log2 - 1) * 2 ^ (den.log2 + 1) := by gcongr
      _ = 2 ^ num.log2 := by
        rw [← zpow_natCast, ← zpow_add₀ two_ne_zero, ← zpow_natCast]
        congr 1
        push_cast
        ring
      _ ≤ num := hnumlow
  · rw [div_lt_iff₀ hpos]
    calc (num : ℚ) < 2 ^ (num.log2 + 1) := hnumhigh
      _ = 2 ^ ((num.log2 : ℤ) - den.log2 + 1) * 2 ^ den.log2 := by
        rw [← zpow_natCast, ← zpow_natCast, ← zpow_add₀ two_ne_zero]
        congr 1
        push_cast
        ring
      _ ≤ 2 ^ ((num.log2 : ℤ) - den.log2 + 1) * den := by gcongr

theorem quantumExponent_spec (f : Format) (hnum : 0 < num) (hden : 0 < den) :
    (num : ℚ) / den < 2 ^ f.precision * 2 ^ quantumExponent f num den ∧
    f.minExponent ≤ quantumExponent f num den ∧
    (quantumExponent f num den = f.minExponent ∨
      2 ^ f.precision * 2 ^ (quantumExponent f num den - 1) ≤ (num : ℚ) / den) := by
  obtain ⟨hlow, hhigh⟩ := log2_bounds hnum hden
  unfold quantumExponent
  dsimp only
  generalize he : (num.log2 : ℤ) - den.log2 - f.precision = e
  have hpow (k : ℤ) : (2 : ℚ) ^ f.precision * 2 ^ (e + k) =
      2 ^ ((num.log2 : ℤ) - den.log2 + k) := by
    rw [← zpow_natCast, ← zpow_add₀ two_ne_zero]
    congr 1
    omega
  have htest : (inUnits num den e).1 / (inUnits num den e).2 < Nat.pow 2 f.precision ↔
      (num : ℚ) / den < 2 ^ f.precision * 2 ^ e := by
    obtain ⟨hunit, hratio⟩ := inUnits_ratio num hden e
    rw [Nat.div_lt_iff_lt_mul hunit, ← Nat.cast_lt (α := ℚ), Nat.cast_mul,
      ← div_lt_iff₀ (Nat.cast_pos.mpr hunit), hratio, div_lt_iff₀ (by positivity)]
    change _ < ((2 ^ f.precision : ℕ) : ℚ) * _ ↔ _
    rw [Nat.cast_pow, Nat.cast_ofNat]
  -- Raising the exponent to the least one of the format keeps the number below the bound.
  have hraise {k : ℤ} (hbelow : (num : ℚ) / den < 2 ^ f.precision * 2 ^ k)
      (habove : 2 ^ f.precision * 2 ^ (k - 1) ≤ (num : ℚ) / den) :
      (num : ℚ) / den < 2 ^ f.precision * 2 ^ max f.minExponent k ∧
      f.minExponent ≤ max f.minExponent k ∧
      (max f.minExponent k = f.minExponent ∨
        2 ^ f.precision * 2 ^ (max f.minExponent k - 1) ≤ (num : ℚ) / den) := by
    refine ⟨hbelow.trans_le ?_, le_max_left _ _, ?_⟩
    · gcongr
      · exact one_le_two
      · exact le_max_right _ _
    · obtain h | h := max_choice f.minExponent k
      · exact Or.inl h
      · rw [h]
        exact Or.inr habove
  split_ifs with hfits
  · refine hraise (htest.mp hfits) ?_
    rw [sub_eq_add_neg, hpow]
    exact hlow
  · refine hraise ?_ ?_
    · rw [hpow]
      exact hhigh
    · rw [add_sub_cancel_right]
      exact not_lt.mp (htest.not.mp hfits)

/-! ### Rounding -/

/-- The numbers of a format. -/
def Format.Holds (f : Format) (d : ℚ) : Prop :=
  ∃ m e : ℤ, |m| < 2 ^ f.precision ∧ f.minExponent ≤ e ∧ e ≤ f.maxExponent ∧ d = m * 2 ^ e

/-- `d` is the number of the format nearest to `x`. It is even where another one is as near: it is a
multiple of twice the distance between them. -/
structure RoundsTo (f : Format) (x d : ℚ) : Prop where
  holds : f.Holds d
  nearest : ∀ c, f.Holds c → |x - d| ≤ |x - c|
  even : ∀ c, f.Holds c → |x - c| = |x - d| → c ≠ d → ∃ k : ℤ, d = k * (2 * (c - d))

variable {x y d d' : ℚ}

theorem Format.Holds.neg (h : f.Holds d) : f.Holds (-d) := by
  obtain ⟨m, e, hm, hmin, hmax, rfl⟩ := h
  exact ⟨-m, e, by rwa [abs_neg], hmin, hmax, by push_cast; ring⟩

theorem RoundsTo.neg (h : RoundsTo f x d) : RoundsTo f (-x) (-d) := by
  have hflip (c : ℚ) : |-x - c| = |x - -c| := by
    rw [← abs_neg]
    congr 1
    ring
  refine ⟨h.holds.neg, fun c hc => ?_, fun c hc htie hne => ?_⟩
  · rw [hflip, hflip, neg_neg]
    exact h.nearest _ hc.neg
  · rw [hflip, hflip, neg_neg] at htie
    obtain ⟨k, hk⟩ := h.even _ hc.neg htie fun heq => hne (by rw [← heq, neg_neg])
    exact ⟨k, by linear_combination -hk⟩

theorem RoundsTo.unique (h : RoundsTo f x d) (h' : RoundsTo f x d') : d = d' := by
  by_contra hne
  have htie : |x - d'| = |x - d| := le_antisymm (h'.nearest d h.holds) (h.nearest d' h'.holds)
  obtain ⟨k, hk⟩ := h.even d' h'.holds htie (Ne.symm hne)
  obtain ⟨k', hk'⟩ := h'.even d h.holds htie.symm hne
  -- Both would be even multiples of their distance, which is an odd one.
  have hodd : (d - d') * (1 + 2 * (k + k')) = 0 := by linear_combination hk - hk'
  obtain h | h := mul_eq_zero.mp hodd
  · exact hne (sub_eq_zero.mp h)
  · have : (1 + 2 * (k + k') : ℤ) = 0 := by exact_mod_cast h
    omega

theorem RoundsTo.mono (h : RoundsTo f x d) (h' : RoundsTo f y d') (hxy : x ≤ y) : d ≤ d' := by
  by_contra hlt
  rw [not_le] at hlt
  have hmiddle {z : ℚ} (hz : |z - d| ≤ |z - d'|) : d + d' ≤ 2 * z := by
    have := sq_le_sq.mpr hz
    nlinarith
  have hmiddle' {z : ℚ} (hz : |z - d'| ≤ |z - d|) : 2 * z ≤ d + d' := by
    have := sq_le_sq.mpr hz
    nlinarith
  have hx := hmiddle (h.nearest d' h'.holds)
  have hy := hmiddle' (h'.nearest d h.holds)
  obtain rfl : x = y := by linarith
  exact hlt.ne' (h.unique h')

theorem Format.Holds.roundsTo_self (h : f.Holds x) : RoundsTo f x x := by
  refine ⟨h, fun c _ => ?_, fun c _ htie hne => ?_⟩
  · rw [sub_self, abs_zero]
    exact abs_nonneg _
  · rw [sub_self, abs_zero] at htie
    exact absurd (sub_eq_zero.mp (abs_eq_zero.mp htie)).symm hne

theorem RoundsTo.eq_of_holds (h : RoundsTo f x d) (hx : f.Holds x) : d = x := by
  have hnear := h.nearest x hx
  rw [sub_self, abs_zero] at hnear
  exact (sub_eq_zero.mp (abs_nonpos_iff.mp hnear)).symm

/-! ### Rounding a quotient -/

/-- The value that a quotient is rounded to, with its sign. -/
theorem ofRatio_value (f : Format) (hp : 0 < f.precision) (negative : Bool) (hnum : num ≠ 0) :
    (ofRatio f negative num den).value = signed negative
      (divEven (inUnits num den (quantumExponent f num den)).1
        (inUnits num den (quantumExponent f num den)).2 * 2 ^ quantumExponent f num den) := by
  rw [ofRatio, if_neg hnum]
  dsimp only
  split_ifs with hfull
  · rw [value, hfull]
    congr 1
    obtain ⟨p, hp⟩ := Nat.exists_eq_add_of_le' hp
    change ((2 ^ (f.precision - 1) : ℕ) : ℚ) * _ = ((2 ^ f.precision : ℕ) : ℚ) * _
    rw [hp, Nat.add_sub_cancel, zpow_add₀ two_ne_zero]
    push_cast
    ring
  · rfl

theorem abs_sub_multiple (x : ℚ) (e k : ℤ) : |x - k * 2 ^ e| = |x / 2 ^ e - k| * 2 ^ e := by
  have hpos : (0 : ℚ) < 2 ^ e := by positivity
  rw [← abs_of_pos hpos, ← abs_mul, abs_of_pos hpos, sub_mul, div_mul_cancel₀ _ hpos.ne']

/-- A number of the format is a multiple of the unit, or smaller than a multiple that does
not exceed `x`. -/
theorem Format.Holds.multiple_or_lt {e : ℤ} (hp : 0 < f.precision)
    (hlow : e = f.minExponent ∨ 2 ^ f.precision * 2 ^ (e - 1) ≤ x) (h : f.Holds d) :
    (∃ k : ℤ, d = k * 2 ^ e) ∨ ∃ k : ℤ, d < k * 2 ^ e ∧ k * 2 ^ e ≤ x := by
  obtain ⟨m, j, hm, hmin, -, rfl⟩ := h
  by_cases hj : e ≤ j
  · refine Or.inl ⟨m * 2 ^ (j - e).toNat, ?_⟩
    push_cast
    rw [mul_assoc, ← zpow_natCast, ← zpow_add₀ two_ne_zero, Int.toNat_of_nonneg (by omega)]
    congr 2
    omega
  · obtain hlow | hlow := hlow
    · omega
    have hhalf : (2 : ℚ) ^ f.precision * 2 ^ (e - 1) =
        ((2 ^ (f.precision - 1) : ℤ) : ℚ) * 2 ^ e := by
      obtain ⟨p, hp⟩ := Nat.exists_eq_add_of_le' hp
      rw [hp, Nat.add_sub_cancel, zpow_sub₀ two_ne_zero, pow_succ]
      push_cast
      field_simp
    refine Or.inr ⟨2 ^ (f.precision - 1), ?_, hhalf ▸ hlow⟩
    rw [← hhalf]
    have hm' : (m : ℚ) < 2 ^ f.precision := by exact_mod_cast (le_abs_self m).trans_lt hm
    calc (m : ℚ) * 2 ^ j < 2 ^ f.precision * 2 ^ j := by gcongr
      _ ≤ 2 ^ f.precision * 2 ^ (e - 1) := by
        gcongr
        · exact one_le_two
        · omega

/-- The nearest multiple of a unit that leaves full precision, or of the least unit, is the nearest
number of the format. -/
theorem roundsTo_of_multiple {e q : ℤ} (hp : 0 < f.precision)
    (hq : |x / 2 ^ e - q| ≤ 1 / 2) (heven : |x / 2 ^ e - q| = 1 / 2 → Even q)
    (hlow : e = f.minExponent ∨ 2 ^ f.precision * 2 ^ (e - 1) ≤ x)
    (hholds : f.Holds (q * 2 ^ e)) : RoundsTo f x (q * 2 ^ e) := by
  have hpos : (0 : ℚ) < 2 ^ e := by positivity
  have hmultiple (k : ℤ) : |x - q * 2 ^ e| ≤ |x - k * 2 ^ e| := by
    rw [abs_sub_multiple, abs_sub_multiple]
    exact mul_le_mul_of_nonneg_right (nearest_of_error hq k).1 hpos.le
  -- What is no multiple of the unit lies farther off than a multiple between it and `x`.
  have hother {c : ℚ} (hc : f.Holds c) (hne : ¬ ∃ k : ℤ, c = k * 2 ^ e) :
      |x - q * 2 ^ e| < |x - c| := by
    obtain ⟨k, hk, hkx⟩ := (hc.multiple_or_lt hp hlow).resolve_left hne
    calc |x - q * 2 ^ e| ≤ |x - k * 2 ^ e| := hmultiple k
      _ = x - k * 2 ^ e := abs_of_nonneg (sub_nonneg.mpr hkx)
      _ < x - c := by linarith
      _ ≤ |x - c| := le_abs_self _
  refine ⟨hholds, fun c hc => ?_, fun c hc htie hne => ?_⟩
  · by_cases h : ∃ k : ℤ, c = k * 2 ^ e
    · obtain ⟨k, rfl⟩ := h
      exact hmultiple k
    · exact (hother hc h).le
  · by_cases h : ∃ k : ℤ, c = k * 2 ^ e
    · obtain ⟨k, rfl⟩ := h
      rw [abs_sub_multiple, abs_sub_multiple] at htie
      obtain ⟨hhalf, hgap⟩ := (nearest_of_error hq k).2 (mul_right_cancel₀ hpos.ne' htie)
        fun heq => hne (by rw [heq])
      obtain ⟨r, hr⟩ := heven hhalf
      obtain hgap | hgap := (abs_eq one_pos.le).mp hgap
      · refine ⟨r, ?_⟩
        obtain rfl : k = q + 1 := by omega
        rw [hr]
        push_cast
        ring
      · refine ⟨-r, ?_⟩
        obtain rfl : k = q - 1 := by omega
        rw [hr]
        push_cast
        ring
    · exact absurd htie (hother hc h).ne'

theorem RoundsTo.signed (negative : Bool) (h : RoundsTo f x d) :
    RoundsTo f (signed negative x) (signed negative d) := by
  cases negative with
  | false => exact h
  | true => exact h.neg

theorem holds_of_mantissa_lt {v : Binary} (hm : v.mantissa < 2 ^ f.precision)
    (hmin : f.minExponent ≤ v.exponent) (hmax : v.exponent ≤ f.maxExponent) : f.Holds v.value := by
  have hmagnitude : f.Holds (v.mantissa * 2 ^ v.exponent) :=
    ⟨v.mantissa, v.exponent, by rw [Nat.abs_cast]; exact_mod_cast hm, hmin, hmax, by push_cast; rfl⟩
  unfold value Binary.signed
  split
  · exact hmagnitude.neg
  · exact hmagnitude

theorem ofRatio_bounds (negative : Bool) (hp : 0 < f.precision) (hnum : 0 < num) (hden : 0 < den) :
    (ofRatio f negative num den).mantissa < 2 ^ f.precision ∧
    f.minExponent ≤ (ofRatio f negative num den).exponent := by
  obtain ⟨hbelow, hmin, -⟩ := quantumExponent_spec f hnum hden
  obtain ⟨hunit, hratio⟩ := inUnits_ratio num hden (quantumExponent f num den)
  have hle : divEven (inUnits num den (quantumExponent f num den)).1
      (inUnits num den (quantumExponent f num den)).2 ≤ 2 ^ f.precision := by
    refine divEven_le ?_
    rw [← div_lt_iff₀ (by positivity), ← hratio, div_lt_iff₀ (Nat.cast_pos.mpr hunit)] at hbelow
    exact_mod_cast hbelow
  rw [ofRatio, if_neg hnum.ne']
  dsimp only
  split_ifs with hfull
  · exact ⟨Nat.pow_lt_pow_right one_lt_two (Nat.sub_lt hp one_pos),
      hmin.trans (Int.le_add_one le_rfl)⟩
  · exact ⟨lt_of_le_of_ne hle hfull, hmin⟩

theorem ofRatio_exponent (f : Format) (negative : Bool) (num den : ℕ) :
    (ofRatio f negative num den).exponent = (ofRatio f false num den).exponent := by
  unfold ofRatio
  dsimp only
  split_ifs <;> rfl

/-- Rounding a quotient gives the nearest number of the format, unless that is too large for it. -/
theorem ofRatio_roundsTo (hp : 0 < f.precision) (negative : Bool) (num : ℕ) (hden : 0 < den)
    (hfit : (ofRatio f negative num den).overflows f = false) :
    RoundsTo f (Binary.signed negative (num / den)) (ofRatio f negative num den).value := by
  rw [overflows, decide_eq_false_iff_not, not_lt, ofRatio_exponent] at hfit
  obtain rfl | hnum := Nat.eq_zero_or_pos num
  · rw [ofRatio, if_pos rfl] at hfit ⊢
    refine .signed negative ?_
    rw [Nat.cast_zero, zero_div, zero_mul]
    exact Format.Holds.roundsTo_self ⟨0, f.minExponent, by simp, le_rfl, hfit, by simp⟩
  · obtain ⟨-, -, hlow⟩ := quantumExponent_spec f hnum hden
    obtain ⟨hunit, hratio⟩ := inUnits_ratio num hden (quantumExponent f num den)
    obtain ⟨herror, heven⟩ := divEven_error (inUnits num den (quantumExponent f num den)).1 hunit
    obtain ⟨hm, hmin⟩ := ofRatio_bounds false hp hnum hden
    have hholds := holds_of_mantissa_lt hm hmin hfit
    rw [ofRatio_value f hp _ hnum.ne'] at hholds ⊢
    rw [hratio, ← Int.cast_natCast (R := ℚ)] at herror heven
    rw [← Int.cast_natCast (R := ℚ)] at hholds ⊢
    exact .signed negative (roundsTo_of_multiple hp herror
      (fun h => (Int.even_coe_nat _).mpr (heven h)) hlow hholds)

theorem ofRatio_fits (negative : Bool) (hrange : f.minExponent < f.maxExponent) (hden : 0 < den)
    (h : (num : ℚ) / den < 2 ^ f.precision * 2 ^ (f.maxExponent - 1)) :
    (ofRatio f negative num den).overflows f = false := by
  rw [overflows, decide_eq_false_iff_not, not_lt]
  obtain rfl | hnum := Nat.eq_zero_or_pos num
  · rw [ofRatio, if_pos rfl]
    exact hrange.le
  have hbelow : quantumExponent f num den < f.maxExponent := by
    obtain ⟨-, -, hmin | hlow⟩ := quantumExponent_spec f hnum hden
    · rw [hmin]
      exact hrange
    · have hlt := lt_of_mul_lt_mul_left (hlow.trans_lt h) (by positivity)
      rw [zpow_lt_zpow_iff_right₀ one_lt_two] at hlt
      omega
  rw [ofRatio, if_neg hnum.ne']
  dsimp only
  split_ifs
  · exact hbelow
  · exact hbelow.le

/-! ### Integers as doubles -/

theorem signed_natAbs (n : ℤ) : signed (decide (n < 0)) (n.natAbs / (1 : ℕ)) = n := by
  rw [Nat.cast_one, div_one, Nat.cast_natAbs, signed]
  by_cases hn : n < 0
  · rw [if_pos (decide_eq_true hn), abs_of_neg hn]
    push_cast
    ring
  · rw [if_neg (by simpa using hn), abs_of_nonneg (not_lt.mp hn)]

theorem ofInt_roundsTo {n : ℤ} (hn : |n| < 2 ^ 64) :
    RoundsTo .double n (ofInt .double n).value := by
  have hfit : (ofRatio .double (n < 0) n.natAbs 1).overflows .double = false := by
    refine ofRatio_fits _ (by decide) one_pos ?_
    have hn' : (n.natAbs : ℚ) < 2 ^ 64 := by
      rw [Nat.cast_natAbs]
      exact_mod_cast hn
    rw [Nat.cast_one, div_one]
    calc (n.natAbs : ℚ) < 2 ^ 53 * 2 ^ (11 : ℤ) := hn'.trans_eq (by norm_num)
      _ ≤ 2 ^ 53 * 2 ^ (970 : ℤ) := by
        gcongr
        · exact one_le_two
        · decide
  have h := ofRatio_roundsTo (f := .double) (by decide) (n < 0) n.natAbs one_pos hfit
  rwa [signed_natAbs] at h

theorem holds_double_of_abs_le {n : ℤ} (hn : |n| ≤ 2 ^ 53) : Format.double.Holds n := by
  obtain hlt | heq := hn.lt_or_eq
  · exact ⟨n, 0, hlt, by decide, by decide, by simp⟩
  · obtain rfl | rfl := (abs_eq (by positivity)).mp heq
    · exact ⟨2 ^ 52, 1, by decide, by decide, by decide, by norm_num⟩
    · exact ⟨-2 ^ 52, 1, by decide, by decide, by decide, by norm_num⟩

/-- The integers are rounded to the same double. -/
def SameDouble (i j : ℤ) : Prop := ∃ d, RoundsTo .double i d ∧ RoundsTo .double j d

section SameDouble

variable {i j : ℤ}

theorem sameDouble_self (hi : |i| < 2 ^ 64) : SameDouble i i :=
  ⟨_, ofInt_roundsTo hi, ofInt_roundsTo hi⟩

theorem SameDouble.symm (h : SameDouble i j) : SameDouble j i := h.imp fun _ => And.symm

/-- An integer below `2 ^ 53` shares its double with no other one. -/
theorem SameDouble.eq_of_abs_lt (h : SameDouble i j) (hi : |i| < 2 ^ 53) : i = j := by
  obtain ⟨d, hid, hjd⟩ := h
  obtain rfl := hid.eq_of_holds (holds_double_of_abs_le hi.le)
  obtain ⟨hlow, hhigh⟩ := abs_lt.mp hi
  -- Full precision ends behind the bounds, which are doubles themselves.
  have hbelow : j ≤ 2 ^ 53 := by
    by_contra hj
    have hbound := (holds_double_of_abs_le (n := 2 ^ 53) (by decide)).roundsTo_self
    have : ((2 ^ 53 : ℤ) : ℚ) ≤ i := hbound.mono hjd (Int.cast_le.mpr (not_le.mp hj).le)
    exact absurd (Int.cast_le.mp this) (not_le.mpr hhigh)
  have habove : -2 ^ 53 ≤ j := by
    by_contra hj
    have hbound := (holds_double_of_abs_le (n := -2 ^ 53) (by decide)).roundsTo_self
    have : (i : ℚ) ≤ ((-2 ^ 53 : ℤ) : ℚ) := hjd.mono hbound (Int.cast_le.mpr (not_le.mp hj).le)
    exact absurd (Int.cast_le.mp this) (not_le.mpr hlow)
  exact Int.cast_inj.mp (hjd.eq_of_holds (holds_double_of_abs_le (abs_le.mpr ⟨habove, hbelow⟩)))

theorem value_ofInt_eq_iff (hi : |i| < 2 ^ 64) (hj : |j| < 2 ^ 64) :
    (ofInt .double i).value = (ofInt .double j).value ↔ SameDouble i j := by
  refine ⟨fun h => ⟨_, ofInt_roundsTo hi, h ▸ ofInt_roundsTo hj⟩, ?_⟩
  rintro ⟨d, hid, hjd⟩
  exact ((ofInt_roundsTo hi).unique hid).trans (hjd.unique (ofInt_roundsTo hj))

theorem value_ofInt_lt_iff (hi : |i| < 2 ^ 64) (hj : |j| < 2 ^ 64) :
    (ofInt .double i).value < (ofInt .double j).value ↔ i < j ∧ ¬ SameDouble i j := by
  rw [lt_iff_le_and_ne, Ne, value_ofInt_eq_iff hi hj]
  refine and_congr_left fun hdiff => ?_
  constructor
  · intro hle
    by_contra hji
    have hge := (ofInt_roundsTo hj).mono (ofInt_roundsTo hi) (Int.cast_le.mpr (not_lt.mp hji))
    exact hdiff ((value_ofInt_eq_iff hi hj).mp (le_antisymm hle hge))
  · intro hlt
    exact (ofInt_roundsTo hi).mono (ofInt_roundsTo hj) (Int.cast_le.mpr hlt.le)

end SameDouble

end Workflow.Binary
