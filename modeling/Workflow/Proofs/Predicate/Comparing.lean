import Workflow.Predicate.Eval
import Workflow.Proofs.Number.Rounding
import Workflow.Proofs.Predicate.Writing

/-! What comparisons of integers say: they are made between the doubles that stand for the
integers. -/
namespace Workflow

theorem Number.compare_int (i j : ℤ) : (Number.int i).compare (.int j) =
    Ord.compare (Binary.ofInt .double i).value (Binary.ofInt .double j).value :=
  Binary.compare_values _ _

theorem Number.abs_lt_of_exact {n : ℤ} (hlow : exactLeast ≤ n) (hhigh : n ≤ exactGreatest) :
    |n| < 2 ^ 64 := by
  have hleast : exactLeast = -2 ^ 63 := rfl
  have hgreatest : exactGreatest = 2 ^ 64 - 1 := rfl
  rw [abs_lt]
  omega

section Integers

variable {i j : ℤ}

theorem Json.order_int (i j : ℤ) : (Json.num (.int i)).order? (.num (.int j)) =
    some (Ord.compare (Binary.ofInt .double i).value (Binary.ofInt .double j).value) :=
  congrArg some (Number.compare_int i j)

theorem lt_and_not_or_iff {P : Prop} (h : i = j → P) : i < j ∧ ¬ P ∨ P ↔ i ≤ j ∨ P := by
  by_cases hP : P
  · simp only [hP, or_true]
  · simp only [hP, not_false_eq_true, and_true, or_false]
    exact ⟨le_of_lt, fun hle => lt_of_le_of_ne hle fun heq => hP (h heq)⟩

variable (hi : |i| < 2 ^ 64) (hj : |j| < 2 ^ 64)
include hi hj

theorem Json.looseEq_int : (Json.num (.int i)).looseEq (.num (.int j)) = true ↔
    Binary.SameDouble i j := by
  rw [Json.looseEq, Number.compare_int, beq_iff_eq, compare_eq_iff_eq,
    Binary.value_ofInt_eq_iff hi hj]

theorem Json.order_int_lt : (Json.num (.int i)).order? (.num (.int j)) = some .lt ↔
    i < j ∧ ¬ Binary.SameDouble i j := by
  rw [Json.order_int, Option.some_inj, compare_lt_iff_lt, Binary.value_ofInt_lt_iff hi hj]

theorem Json.order_int_gt : (Json.num (.int i)).order? (.num (.int j)) = some .gt ↔
    j < i ∧ ¬ Binary.SameDouble i j := by
  rw [Json.order_int, Option.some_inj, compare_gt_iff_gt, Binary.value_ofInt_lt_iff hj hi]
  exact and_congr_right fun _ => not_congr ⟨.symm, .symm⟩

theorem Json.order_int_eq : (Json.num (.int i)).order? (.num (.int j)) = some .eq ↔
    Binary.SameDouble i j := by
  rw [Json.order_int, Option.some_inj, compare_eq_iff_eq, Binary.value_ofInt_eq_iff hi hj]

theorem Comparison.le_int : Comparison.le.holds (.num (.int i)) (.num (.int j)) = true ↔
    i ≤ j ∨ Binary.SameDouble i j := by
  rw [holds, Bool.or_eq_true, beq_iff_eq, beq_iff_eq, Json.order_int_lt hi hj,
    Json.order_int_eq hi hj]
  exact lt_and_not_or_iff fun h => h ▸ Binary.sameDouble_self hi

theorem Comparison.ge_int : Comparison.ge.holds (.num (.int i)) (.num (.int j)) = true ↔
    j ≤ i ∨ Binary.SameDouble i j := by
  rw [holds, Bool.or_eq_true, beq_iff_eq, beq_iff_eq, Json.order_int_gt hi hj,
    Json.order_int_eq hi hj]
  exact lt_and_not_or_iff fun h => h ▸ Binary.sameDouble_self hj

end Integers

namespace Predicate

open Binary (SameDouble)

/-- The text is a predicate that holds of the state just if the proposition is true. -/
def Tells (state : Fields) (text : String) (P : Prop) : Prop :=
  ∃ p, parse text = .ok p ∧ (p.holds state = true ↔ P)

section Comparing

variable {x y : String} {state : Fields}

theorem parse_comparison (hx : IsName x) (hy : IsName y) {op : Comparison} {sign joint : String}
    (hsign : (Token.op op).sign? = some sign) (hjoint : joint = " " ++ sign ++ " ") :
    parse (x ++ joint ++ y) = .ok (.compare op (.path x) (.path y)) := by
  have hblank : Gap [' '] := by decide
  have h := parse_of_spelled (.compare op (.path hx) (.path hy) (.sign hsign hblank hblank))
  have htext : x ++ joint ++ y = String.ofList (operand (.path x) x.toList ++
      ([' '] ++ (sign.toList ++ [' ']) ++ operand (.path y) y.toList)) := by
    rw [← String.toList_inj]
    simp [hjoint, operand, isCompound]
  rw [htext]
  exact h

theorem value_path {v : Json} (h : state.get? x = some v) : (path x).value state = v := by
  rw [value, Fields.lookup?, h]
  rfl

/-- Comparing two members of the state compares their values. -/
theorem tells_comparison (hx : IsName x) (hy : IsName y) {v w : Json}
    (hv : state.get? x = some v) (hw : state.get? y = some w) (op : Comparison)
    {sign joint : String} (hsign : (Token.op op).sign? = some sign)
    (hjoint : joint = " " ++ sign ++ " ") {P : Prop} (hP : op.holds v w = true ↔ P) :
    Tells state (x ++ joint ++ y) P := by
  refine ⟨_, parse_comparison hx hy hsign hjoint, ?_⟩
  rw [holds, value, value_path hv, value_path hw]
  exact hP

/-- Two integers of a document are equal to a predicate just if they are rounded to the same double,
and its order is that of the integers up to this equality. Only integers from `2 ^ 53` on, up or
down, are taken for others. -/
theorem tells_integers (hx : IsName x) (hy : IsName y) {i j : ℤ}
    (hi : Number.exactLeast ≤ i ∧ i ≤ Number.exactGreatest)
    (hj : Number.exactLeast ≤ j ∧ j ≤ Number.exactGreatest)
    (hxi : state.get? x = some (.num (.int i))) (hyj : state.get? y = some (.num (.int j))) :
    Tells state (x ++ " == " ++ y) (SameDouble i j) ∧
    Tells state (x ++ " != " ++ y) (¬ SameDouble i j) ∧
    Tells state (x ++ " < " ++ y) (i < j ∧ ¬ SameDouble i j) ∧
    Tells state (x ++ " <= " ++ y) (i ≤ j ∨ SameDouble i j) ∧
    Tells state (x ++ " > " ++ y) (j < i ∧ ¬ SameDouble i j) ∧
    Tells state (x ++ " >= " ++ y) (j ≤ i ∨ SameDouble i j) ∧
    (SameDouble i j → i ≠ j → 2 ^ 53 ≤ |i| ∧ 2 ^ 53 ≤ |j|) := by
  have hi' := Number.abs_lt_of_exact hi.1 hi.2
  have hj' := Number.abs_lt_of_exact hj.1 hj.2
  refine ⟨tells_comparison hx hy hxi hyj .eq rfl (by decide) (Json.looseEq_int hi' hj'),
    tells_comparison hx hy hxi hyj .ne rfl (by decide) ?_,
    tells_comparison hx hy hxi hyj .lt rfl (by decide) ?_,
    tells_comparison hx hy hxi hyj .le rfl (by decide) (Comparison.le_int hi' hj'),
    tells_comparison hx hy hxi hyj .gt rfl (by decide) ?_,
    tells_comparison hx hy hxi hyj .ge rfl (by decide) (Comparison.ge_int hi' hj'),
    fun hsame hne => ?_⟩
  · rw [Comparison.holds, Bool.not_eq_true', ← Bool.not_eq_true, Json.looseEq_int hi' hj']
  · rw [Comparison.holds, beq_iff_eq, Json.order_int_lt hi' hj']
  · rw [Comparison.holds, beq_iff_eq, Json.order_int_gt hi' hj']
  · exact ⟨not_lt.mp fun h => hne (hsame.eq_of_abs_lt h),
      not_lt.mp fun h => hne (hsame.symm.eq_of_abs_lt h).symm⟩

/-- The state of a run that counts with large numbers. -/
def counted : Fields :=
  [("last-id", .num (.int (-2 ^ 63))), ("order.id", .num (.int (2 ^ 64 - 1)))]

theorem tells_integers_of_counted :
    IsName "order.id" ∧ IsName "last-id" ∧
    Tells counted "order.id == last-id" (SameDouble (2 ^ 64 - 1) (-2 ^ 63)) ∧
    Tells counted "order.id >= last-id"
      (-2 ^ 63 ≤ (2 ^ 64 - 1 : ℤ) ∨ SameDouble (2 ^ 64 - 1) (-2 ^ 63)) := by
  have hx : IsName "order.id" := by decide
  have hy : IsName "last-id" := by decide
  have hi : counted.get? "order.id" = some (.num (.int (2 ^ 64 - 1))) := rfl
  have hj : counted.get? "last-id" = some (.num (.int (-2 ^ 63))) := rfl
  obtain ⟨heq, -, -, -, -, hge, -⟩ := tells_integers hx hy (by decide) (by decide) hi hj
  exact ⟨hx, hy, heq, hge⟩

/-- A state with the first two integers that are taken for one another. -/
def crowded : Fields := [("x", .num (.int (2 ^ 53))), ("y", .num (.int (2 ^ 53 + 1)))]

theorem not_tells_of_crowded :
    IsName "x" ∧ crowded.get? "x" = some (.num (.int (2 ^ 53))) ∧
    IsName "y" ∧ crowded.get? "y" = some (.num (.int (2 ^ 53 + 1))) ∧
    ¬ Tells crowded "x == y" ((2 ^ 53 : ℤ) = 2 ^ 53 + 1) := by
  have hx : IsName "x" := by decide
  have hy : IsName "y" := by decide
  refine ⟨hx, rfl, hy, rfl, ?_⟩
  rintro ⟨p, hp, hiff⟩
  have htext : "x == y" = "x" ++ " == " ++ "y" := by decide
  have hparse : parse ("x" ++ " == " ++ "y") = .ok (.compare .eq (.path "x") (.path "y")) :=
    parse_comparison hx hy rfl (by decide)
  rw [htext] at hp
  obtain rfl := Except.ok.inj (hparse.symm.trans hp)
  exact absurd (hiff.mp (by decide)) (by decide)

end Comparing

end Predicate
end Workflow
