import Workflow.Predicate.Basic
import Workflow.Proofs.Predicate.Scanning

/-! The grammar of predicates, and that the parser accepts what derives from it and nothing else. -/
namespace Workflow.Predicate

namespace Grammar

mutual
/-- What stands for a value: a token of its own, or a predicate between parentheses. -/
inductive Primary : List Token → Predicate → Prop
  | path (name : String) : Primary [.ident name] (.path name)
  | text (s : String) : Primary [.str s] (.literal (.str s))
  | number (x : Binary) : Primary [.num x] (.literal (.num (.real x)))
  /-- A number beyond every double has no value. -/
  | huge (negative : Bool) : Primary [.huge negative] (.literal .null)
  | true : Primary [.true] (.literal (.bool Bool.true))
  | false : Primary [.false] (.literal (.bool Bool.false))
  | null : Primary [.null] (.literal .null)
  | group {ts : List Token} {p : Predicate} :
      Disjunction ts p → Primary (.lparen :: ts ++ [.rparen]) p
/-- At most one comparison. -/
inductive Comparison : List Token → Predicate → Prop
  | primary {ts : List Token} {p : Predicate} : Primary ts p → Comparison ts p
  | compare {ts us : List Token} {a b : Predicate} (op : Workflow.Comparison) :
      Primary ts a → Primary us b → Comparison (ts ++ .op op :: us) (.compare op a b)
inductive Unary : List Token → Predicate → Prop
  | not {ts : List Token} {p : Predicate} : Unary ts p → Unary (.not :: ts) (.not p)
  | comparison {ts : List Token} {p : Predicate} : Comparison ts p → Unary ts p
/-- Operands joined by `and`, grouped to the left. -/
inductive Conjunction : List Token → Predicate → Prop
  | unary {ts : List Token} {p : Predicate} : Unary ts p → Conjunction ts p
  | and {ts us : List Token} {a b : Predicate} :
      Conjunction ts a → Unary us b → Conjunction (ts ++ .and :: us) (.and a b)
/-- Operands joined by `or`, grouped to the left. -/
inductive Disjunction : List Token → Predicate → Prop
  | conjunction {ts : List Token} {p : Predicate} : Conjunction ts p → Disjunction ts p
  | or {ts us : List Token} {a b : Predicate} :
      Disjunction ts a → Conjunction us b → Disjunction (ts ++ .or :: us) (.or a b)
end

/-! ### What a rule reads derives from the grammar -/

mutual
theorem parseOr_sound {fuel : Nat} {ts rest : List Token} {p : Predicate}
    (h : parseOr fuel ts = .ok (p, rest)) : ∃ used, ts = used ++ rest ∧ Disjunction used p := by
  cases fuel with
  | zero => cases h
  | succ fuel =>
    rw [parseOr] at h
    obtain ⟨⟨a, r⟩, ha, htail⟩ := bind_eq_ok.mp h
    obtain ⟨used, rfl, hused⟩ := parseAnd_sound ha
    obtain ⟨more, rfl, hmore⟩ := parseOrTail_sound (.conjunction hused) htail
    exact ⟨used ++ more, by simp, hmore⟩
theorem parseOrTail_sound {fuel : Nat} {before ts rest : List Token} {a p : Predicate}
    (ha : Disjunction before a) (h : parseOrTail fuel a ts = .ok (p, rest)) :
    ∃ used, ts = used ++ rest ∧ Disjunction (before ++ used) p := by
  cases fuel with
  | zero => cases h
  | succ fuel =>
    unfold parseOrTail at h
    split at h
    · obtain ⟨⟨b, r⟩, hb, htail⟩ := bind_eq_ok.mp h
      obtain ⟨used, rfl, hused⟩ := parseAnd_sound hb
      obtain ⟨more, rfl, hmore⟩ := parseOrTail_sound (.or ha hused) htail
      exact ⟨.or :: used ++ more, by simp, by simpa using hmore⟩
    · cases h
      exact ⟨[], rfl, by simpa using ha⟩
theorem parseAnd_sound {fuel : Nat} {ts rest : List Token} {p : Predicate}
    (h : parseAnd fuel ts = .ok (p, rest)) : ∃ used, ts = used ++ rest ∧ Conjunction used p := by
  cases fuel with
  | zero => cases h
  | succ fuel =>
    rw [parseAnd] at h
    obtain ⟨⟨a, r⟩, ha, htail⟩ := bind_eq_ok.mp h
    obtain ⟨used, rfl, hused⟩ := parseUnary_sound ha
    obtain ⟨more, rfl, hmore⟩ := parseAndTail_sound (.unary hused) htail
    exact ⟨used ++ more, by simp, hmore⟩
theorem parseAndTail_sound {fuel : Nat} {before ts rest : List Token} {a p : Predicate}
    (ha : Conjunction before a) (h : parseAndTail fuel a ts = .ok (p, rest)) :
    ∃ used, ts = used ++ rest ∧ Conjunction (before ++ used) p := by
  cases fuel with
  | zero => cases h
  | succ fuel =>
    unfold parseAndTail at h
    split at h
    · obtain ⟨⟨b, r⟩, hb, htail⟩ := bind_eq_ok.mp h
      obtain ⟨used, rfl, hused⟩ := parseUnary_sound hb
      obtain ⟨more, rfl, hmore⟩ := parseAndTail_sound (.and ha hused) htail
      exact ⟨.and :: used ++ more, by simp, by simpa using hmore⟩
    · cases h
      exact ⟨[], rfl, by simpa using ha⟩
theorem parseUnary_sound {fuel : Nat} {ts rest : List Token} {p : Predicate}
    (h : parseUnary fuel ts = .ok (p, rest)) : ∃ used, ts = used ++ rest ∧ Unary used p := by
  cases fuel with
  | zero => cases h
  | succ fuel =>
    unfold parseUnary at h
    split at h
    · obtain ⟨⟨a, r⟩, ha, hok⟩ := bind_eq_ok.mp h
      obtain ⟨used, rfl, hused⟩ := parseUnary_sound ha
      cases hok
      exact ⟨.not :: used, rfl, .not hused⟩
    · obtain ⟨used, hts, hused⟩ := parseComparison_sound h
      exact ⟨used, hts, .comparison hused⟩
theorem parseComparison_sound {fuel : Nat} {ts rest : List Token} {p : Predicate}
    (h : parseComparison fuel ts = .ok (p, rest)) :
    ∃ used, ts = used ++ rest ∧ Comparison used p := by
  cases fuel with
  | zero => cases h
  | succ fuel =>
    rw [parseComparison] at h
    obtain ⟨⟨a, r⟩, ha, hmatch⟩ := bind_eq_ok.mp h
    obtain ⟨used, rfl, hused⟩ := parsePrimary_sound ha
    dsimp only at hmatch
    split at hmatch
    · rename_i op r
      obtain ⟨⟨b, r'⟩, hb, hok⟩ := bind_eq_ok.mp hmatch
      obtain ⟨more, rfl, hmore⟩ := parsePrimary_sound hb
      cases hok
      exact ⟨used ++ .op op :: more, by simp, .compare op hused hmore⟩
    · cases hmatch
      exact ⟨used, rfl, .primary hused⟩
theorem parsePrimary_sound {fuel : Nat} {ts rest : List Token} {p : Predicate}
    (h : parsePrimary fuel ts = .ok (p, rest)) : ∃ used, ts = used ++ rest ∧ Primary used p := by
  cases fuel with
  | zero => cases h
  | succ fuel =>
    cases ts with
    | nil => cases h
    | cons t ts =>
      rw [parsePrimary.eq_def] at h
      cases t with
      | lparen =>
        obtain ⟨⟨a, r⟩, ha, hclose⟩ := bind_eq_ok.mp h
        obtain ⟨used, rfl, hused⟩ := parseOr_sound ha
        dsimp only at hclose
        split at hclose
        · cases hclose
          exact ⟨.lparen :: used ++ [.rparen], by simp, .group hused⟩
        · cases hclose
      | ident name => cases h; exact ⟨[_], rfl, .path name⟩
      | str s => cases h; exact ⟨[_], rfl, .text s⟩
      | num x => cases h; exact ⟨[_], rfl, .number x⟩
      | huge negative => cases h; exact ⟨[_], rfl, .huge negative⟩
      | true => cases h; exact ⟨[_], rfl, .true⟩
      | false => cases h; exact ⟨[_], rfl, .false⟩
      | null => cases h; exact ⟨[_], rfl, .null⟩
      | and | or | not | op | rparen => cases h
end

/-! ### What derives from the grammar is read -/

theorem parseOrTail_stop {fuel : Nat} {a : Predicate} {rest : List Token}
    (hrest : rest.head? ≠ some .or) : parseOrTail (fuel + 1) a rest = .ok (a, rest) := by
  unfold parseOrTail
  split
  · exact absurd rfl hrest
  · rfl

theorem parseAndTail_stop {fuel : Nat} {a : Predicate} {rest : List Token}
    (hrest : rest.head? ≠ some .and) : parseAndTail (fuel + 1) a rest = .ok (a, rest) := by
  unfold parseAndTail
  split
  · exact absurd rfl hrest
  · rfl

theorem Primary.ne_not {ts : List Token} {p : Predicate} (h : Primary ts p) :
    ∃ t r, ts = t :: r ∧ t ≠ .not := by
  cases h <;> exact ⟨_, _, rfl, nofun⟩

theorem Comparison.ne_not {ts : List Token} {p : Predicate} (h : Comparison ts p) :
    ∃ t r, ts = t :: r ∧ t ≠ .not := by
  cases h with
  | primary h => exact h.ne_not
  | compare op h _ =>
    obtain ⟨t, r, rfl, ht⟩ := h.ne_not
    exact ⟨t, _, rfl, ht⟩

/-- The tokens do not go on with a comparison. -/
def NoComparison (rest : List Token) : Prop := ∀ op, rest.head? ≠ some (.op op)

-- A token costs at most six units of fuel, and each rule on the way down to a primary needs one
-- less than the rule above it. What the tail of a list of operands does depends on the tokens that
-- follow, so the statements about lists stop in front of the tail.
mutual
theorem parsePrimary_complete {ts : List Token} {p : Predicate} (h : Primary ts p) (fuel : Nat)
    (rest : List Token) (hfuel : 6 * ts.length + 1 ≤ fuel) :
    parsePrimary fuel (ts ++ rest) = .ok (p, rest) := by
  obtain ⟨fuel, rfl⟩ := Nat.exists_eq_add_of_le' (show 1 ≤ fuel by omega)
  cases h with
  | group h =>
    simp only [List.length_cons, List.length_append, List.length_nil] at hfuel
    obtain ⟨left, hleft, hor⟩ := parseOr_complete h fuel (.rparen :: rest) (by omega)
      (by simp [NoComparison]) (by simp)
    obtain ⟨left, rfl⟩ := Nat.exists_eq_add_of_le' (show 1 ≤ left by omega)
    rw [parseOrTail_stop (by simp)] at hor
    simp [parsePrimary, hor, bind, Except.bind]
  | _ => rfl
theorem parseComparison_complete {ts : List Token} {p : Predicate} (h : Comparison ts p)
    (fuel : Nat) (rest : List Token) (hfuel : 6 * ts.length + 2 ≤ fuel)
    (hrest : NoComparison rest) : parseComparison fuel (ts ++ rest) = .ok (p, rest) := by
  obtain ⟨fuel, rfl⟩ := Nat.exists_eq_add_of_le' (show 1 ≤ fuel by omega)
  rw [parseComparison]
  cases h with
  | primary h =>
    rw [parsePrimary_complete h _ _ (by omega)]
    refine bind_eq_ok.mpr ⟨_, rfl, ?_⟩
    dsimp only
    split
    · exact absurd rfl (hrest _)
    · rfl
  | compare op ha hb =>
    simp only [List.length_append, List.length_cons] at hfuel
    rw [List.append_assoc, List.cons_append, parsePrimary_complete ha _ _ (by omega)]
    refine bind_eq_ok.mpr ⟨_, rfl, ?_⟩
    dsimp only
    rw [parsePrimary_complete hb _ _ (by omega)]
    rfl
theorem parseUnary_complete {ts : List Token} {p : Predicate} (h : Unary ts p) (fuel : Nat)
    (rest : List Token) (hfuel : 6 * ts.length + 3 ≤ fuel) (hrest : NoComparison rest) :
    parseUnary fuel (ts ++ rest) = .ok (p, rest) := by
  obtain ⟨fuel, rfl⟩ := Nat.exists_eq_add_of_le' (show 1 ≤ fuel by omega)
  cases h with
  | not h =>
    rw [List.length_cons] at hfuel
    rw [List.cons_append, parseUnary, parseUnary_complete h _ _ (by omega) hrest]
    rfl
  | comparison h =>
    have hcomp := parseComparison_complete h fuel rest (by omega) hrest
    obtain ⟨t, r, rfl, ht⟩ := h.ne_not
    unfold parseUnary
    split
    · rename_i heq
      exact absurd (List.cons.inj heq).1 ht
    · exact hcomp
theorem parseAnd_complete {ts : List Token} {p : Predicate} (h : Conjunction ts p) (fuel : Nat)
    (rest : List Token) (hfuel : 6 * ts.length + 4 ≤ fuel) (hrest : NoComparison rest) :
    ∃ left, fuel ≤ left + ts.length + 1 ∧
      parseAnd fuel (ts ++ rest) = parseAndTail left p rest := by
  cases h with
  | unary h =>
    obtain ⟨fuel, rfl⟩ := Nat.exists_eq_add_of_le' (show 1 ≤ fuel by omega)
    refine ⟨fuel, by omega, ?_⟩
    rw [parseAnd, parseUnary_complete h _ _ (by omega) hrest]
    rfl
  | and ha hb =>
    simp only [List.length_append, List.length_cons] at hfuel ⊢
    rw [List.append_assoc, List.cons_append]
    obtain ⟨left, hleft, hand⟩ := parseAnd_complete ha fuel (.and :: (_ ++ rest)) (by omega)
      (by simp [NoComparison])
    obtain ⟨left, rfl⟩ := Nat.exists_eq_add_of_le' (show 1 ≤ left by omega)
    refine ⟨left, by omega, ?_⟩
    rw [hand, parseAndTail, parseUnary_complete hb _ _ (by omega) hrest]
    rfl
theorem parseOr_complete {ts : List Token} {p : Predicate} (h : Disjunction ts p) (fuel : Nat)
    (rest : List Token) (hfuel : 6 * ts.length + 5 ≤ fuel) (hrest : NoComparison rest)
    (hand : rest.head? ≠ some .and) :
    ∃ left, fuel ≤ left + ts.length + 1 ∧
      parseOr fuel (ts ++ rest) = parseOrTail left p rest := by
  cases h with
  | conjunction h =>
    obtain ⟨fuel, rfl⟩ := Nat.exists_eq_add_of_le' (show 1 ≤ fuel by omega)
    obtain ⟨left, hleft, htail⟩ := parseAnd_complete h fuel rest (by omega) hrest
    obtain ⟨left, rfl⟩ := Nat.exists_eq_add_of_le' (show 1 ≤ left by omega)
    refine ⟨fuel, by omega, ?_⟩
    rw [parseOr, htail, parseAndTail_stop hand]
    rfl
  | or ha hb =>
    simp only [List.length_append, List.length_cons] at hfuel ⊢
    rw [List.append_assoc, List.cons_append]
    obtain ⟨left, hleft, hor⟩ := parseOr_complete ha fuel (.or :: (_ ++ rest)) (by omega)
      (by simp [NoComparison]) (by simp)
    obtain ⟨left, rfl⟩ := Nat.exists_eq_add_of_le' (show 1 ≤ left by omega)
    obtain ⟨more, hmore, htail⟩ := parseAnd_complete hb left rest (by omega) hrest
    obtain ⟨more, rfl⟩ := Nat.exists_eq_add_of_le' (show 1 ≤ more by omega)
    refine ⟨left, by omega, ?_⟩
    rw [hor, parseOrTail, htail, parseAndTail_stop hand]
    rfl
end

theorem parseOr_fuelFor {ts : List Token} {p : Predicate} (h : Disjunction ts p) :
    parseOr (fuelFor ts) ts = .ok (p, []) := by
  obtain ⟨left, hleft, hor⟩ := parseOr_complete h (fuelFor ts) [] (by rw [fuelFor]; omega)
    (by simp [NoComparison]) (by simp)
  rw [fuelFor] at hleft
  obtain ⟨left, rfl⟩ := Nat.exists_eq_add_of_le' (show 1 ≤ left by omega)
  rwa [parseOrTail_stop (by simp), List.append_nil] at hor

theorem ofTokens_eq_ok_iff {ts : List Token} {p : Predicate} :
    ofTokens ts = .ok p ↔ Disjunction ts p := by
  cases ts with
  | nil => exact ⟨nofun, fun h => nomatch parseOr_fuelFor h⟩
  | cons t ts =>
    change parseOr (fuelFor (t :: ts)) (t :: ts) >>= _ = _ ↔ _
    refine ⟨fun h => ?_, fun h => ?_⟩
    · obtain ⟨⟨q, rest⟩, hor, hend⟩ := bind_eq_ok.mp h
      obtain ⟨used, hused, hp⟩ := parseOr_sound hor
      dsimp only at hend
      split at hend
      · cases hend
        rwa [hused, List.append_nil]
      · cases hend
    · rw [parseOr_fuelFor h]
      rfl

end Grammar

/-- A text derives a predicate when its tokens do. -/
def Derives (text : String) (p : Predicate) : Prop :=
  ∃ ts, Tokens false text.toList ts ∧ Grammar.Disjunction ts p

theorem parse_eq_ok_iff {text : String} {p : Predicate} : parse text = .ok p ↔ Derives text p := by
  rw [parse, bind_eq_ok]
  exact exists_congr fun ts => and_congr scan_eq_ok_iff Grammar.ofTokens_eq_ok_iff

/-- The parser reads from a text just the predicate that the text derives by the grammar. There is
at most one, and where there is none the parser fails. -/
theorem parse_accepts_grammar (text : String) :
    (∀ p, parse text = .ok p ↔ Derives text p) ∧
    (∀ p q, Derives text p → Derives text q → p = q) ∧
    ((¬ ∃ p, Derives text p) → ∃ e, parse text = .error e) := by
  refine ⟨fun p => parse_eq_ok_iff, fun p q hp hq => ?_, fun hnone => ?_⟩
  · rw [← parse_eq_ok_iff] at hp hq
    exact Except.ok.inj (hp.symm.trans hq)
  · cases h : parse text with
    | error e => exact ⟨e, rfl⟩
    | ok p => exact absurd ⟨p, parse_eq_ok_iff.mp h⟩ hnone

end Workflow.Predicate
