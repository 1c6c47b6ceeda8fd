import Mathlib.Order.Bounds.Basic
import Workflow.Proofs.Text.Encoding

/-! Cutting a text to a number of bytes. The search for a place to cut finds the last boundary
between characters up to there, and what lies before it is the longest beginning of the text that
has no more bytes. -/
namespace Workflow.Text

/-! ### Bytes and boundaries -/

theorem byteLength_cons (c : Char) (s : List Char) :
    byteLength (c :: s) = c.utf8Size + byteLength s := rfl

theorem byteLength_append (s rest : List Char) :
    byteLength (s ++ rest) = byteLength s + byteLength rest := by
  induction s with
  | nil => simp [byteLength]
  | cons c s ih => rw [List.cons_append, byteLength_cons, byteLength_cons, ih, Nat.add_assoc]

theorem byteLength_eq_length_encode (s : List Char) : byteLength s = (encode s).length := by
  induction s with
  | nil => rfl
  | cons c s ih =>
    rw [byteLength_cons, encode, List.flatMap_cons, ← encode, List.length_append,
      String.length_utf8EncodeChar, ih]

theorem byteLength_pos {s : List Char} (h : s ≠ []) : 0 < byteLength s := by
  cases s with
  | nil => exact absurd rfl h
  | cons c s => exact Nat.add_pos_left c.utf8Size_pos _

theorem isBoundary_zero (s : List Char) : isBoundary s 0 = true := by
  cases s <;> rfl

/-- The boundaries of a text are where the bytes of one of its beginnings end. -/
theorem isBoundary_iff {s : List Char} {n : ℕ} :
    isBoundary s n = true ↔ ∃ start, start <+: s ∧ byteLength start = n := by
  constructor
  · intro h
    induction s generalizing n with
    | nil =>
      cases n with
      | zero => exact ⟨[], List.nil_prefix, rfl⟩
      | succ n => cases h
    | cons c s ih =>
      cases n with
      | zero => exact ⟨[], List.nil_prefix, rfl⟩
      | succ n =>
        obtain ⟨hc, hrest⟩ := Bool.and_eq_true_iff.mp h
        obtain ⟨start, hstart, hlen⟩ := ih hrest
        refine ⟨c :: start, List.cons_prefix_cons.mpr ⟨rfl, hstart⟩, ?_⟩
        rw [byteLength_cons, hlen, Nat.add_sub_cancel' (of_decide_eq_true hc)]
  · rintro ⟨start, ⟨rest, rfl⟩, rfl⟩
    induction start with
    | nil => exact isBoundary_zero _
    | cons c start ih =>
      obtain ⟨n, hn⟩ := Nat.exists_eq_add_of_lt (byteLength_pos (List.cons_ne_nil c start))
      rw [Nat.zero_add] at hn
      rw [byteLength_cons] at hn ⊢
      rw [List.cons_append, hn, isBoundary, ← hn, Nat.add_sub_cancel_left, ih, Bool.and_true]
      exact decide_eq_true (Nat.le_add_right _ _)

/-- What lies before a boundary are the characters whose bytes end there. -/
theorem takeBytes_byteLength (start rest : List Char) :
    takeBytes (start ++ rest) (byteLength start) = start := by
  induction start with
  | nil => exact takeBytes_zero rest
  | cons c start ih =>
    rw [byteLength_cons, List.cons_append, takeBytes, if_pos (Nat.le_add_right _ _),
      Nat.add_sub_cancel_left, ih]

/-- Of two beginnings of a text, the one with more bytes goes on from the other. -/
theorem prefix_of_byteLength_le {start other s : List Char} (h : start <+: s) (hother : other <+: s)
    (hle : byteLength other ≤ byteLength start) : other <+: start := by
  rcases List.prefix_or_prefix_of_prefix h hother with ⟨more, rfl⟩ | hprefix
  · -- There is no character without bytes.
    rw [byteLength_append] at hle
    have hmore : more = [] := by
      by_contra hne
      have hpos := byteLength_pos hne
      omega
    simp [hmore]
  · exact hprefix

/-! ### Steps that cannot always be done -/

/-- Go back from `n` to a boundary. There is nothing to go back to from the beginning
of the text. -/
def findBoundary? (s : List Char) (n : ℕ) : Option ℕ :=
  if isBoundary s n then some n
  else match n with
    | 0 => none
    | n + 1 => findBoundary? s n

/-- The first `n` bytes of a text, which cannot be had if they end within a character. -/
def slice? (s : List Char) (n : ℕ) : Option (List Char) :=
  if isBoundary s n then some (takeBytes s n) else none

/-- Cut a text to `limit` bytes by these steps. -/
def truncate? (limit : ℕ) (s : List Char) : Option (List Char) :=
  if byteLength s ≤ limit then some s
  else do
    let cut ← findBoundary? s limit
    let start ← slice? s cut
    return start ++ ['.', '.', '.']

theorem findBoundary?_eq (s : List Char) (n : ℕ) : findBoundary? s n = some (lastBoundary s n) := by
  induction n with
  | zero => cases s <;> rfl
  | succ n ih =>
    rw [findBoundary?, lastBoundary]
    split
    · rfl
    · exact ih

theorem lastBoundary_isGreatest (s : List Char) (n : ℕ) :
    IsGreatest {m | m ≤ n ∧ isBoundary s m = true} (lastBoundary s n) := by
  induction n with
  | zero => exact ⟨⟨Nat.le_refl 0, isBoundary_zero s⟩, fun m hm => hm.1⟩
  | succ n ih =>
    rw [lastBoundary]
    split
    · rename_i hn
      exact ⟨⟨Nat.le_refl _, hn⟩, fun m hm => hm.1⟩
    · rename_i hn
      refine ⟨⟨Nat.le_succ_of_le ih.1.1, ih.1.2⟩, fun m hm => ih.2 ⟨?_, hm.2⟩⟩
      have hne : m ≠ n + 1 := fun h => hn (h ▸ hm.2)
      have hle := hm.1
      omega

/-- The steps can always be done. -/
theorem truncate?_eq (limit : ℕ) (s : List Char) : truncate? limit s = some (truncate limit s) := by
  have hcut : isBoundary s (lastBoundary s limit) = true := (lastBoundary_isGreatest s limit).1.2
  rw [truncate?, truncate]
  split
  · rfl
  · rw [findBoundary?_eq, Option.bind_eq_bind, Option.bind_some, slice?, if_pos hcut]
    rfl

/-- The longest beginning of the text that has no more than `limit` bytes. -/
structure IsLongest (limit : ℕ) (s start : List Char) : Prop where
  begins : start <+: s
  length_le : (encode start).length ≤ limit
  greatest : ∀ other, other <+: s → (encode other).length ≤ limit → other <+: start

theorem isLongest_takeBytes (limit : ℕ) (s : List Char) :
    IsLongest limit s (takeBytes s (lastBoundary s limit)) := by
  obtain ⟨⟨hle, hcut⟩, hgreatest⟩ := lastBoundary_isGreatest s limit
  obtain ⟨start, ⟨rest, rfl⟩, hstart⟩ := isBoundary_iff.mp hcut
  rw [← hstart, takeBytes_byteLength]
  refine ⟨List.prefix_append start rest, ?_, fun other hother hlen => ?_⟩
  · rw [← byteLength_eq_length_encode, hstart]
    exact hle
  · rw [← byteLength_eq_length_encode] at hlen
    refine prefix_of_byteLength_le (List.prefix_append start rest) hother ?_
    rw [hstart]
    exact hgreatest ⟨hlen, isBoundary_iff.mpr ⟨other, hother, rfl⟩⟩

end Workflow.Text
