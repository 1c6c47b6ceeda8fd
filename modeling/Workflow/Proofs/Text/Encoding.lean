import Workflow.Text.Encoding
import Mathlib.Data.List.Basic
import Mathlib.Tactic.SplitIfs

/-! Reading UTF-8 gives back what was written: whole characters, and no more than them where the
bytes of one are cut. -/
namespace Workflow.Text

/-- The bytes of a text. -/
def encode (s : List Char) : List UInt8 := s.flatMap String.utf8EncodeChar

/-- The bytes may stand behind a first byte that asks for the given range. -/
def Continues : Nat → Nat → List UInt8 → Prop
  | _, _, [] => True
  | least, greatest, b :: bs => least ≤ b.toNat ∧ b.toNat ≤ greatest ∧ Continues 0x80 0xBF bs

/-- The number that bytes behind a first byte complete. -/
def completed (bits : Nat) (tail : List UInt8) : Nat :=
  tail.foldl (fun code b => 64 * code + (b.toNat - 0x80)) bits

theorem readTail_append {least greatest : Nat} {tail : List UInt8} (code : Nat)
    (h : Continues least greatest tail) (rest : List UInt8) :
    readTail tail.length least greatest code (tail ++ rest) =
      .char (Char.ofNat (completed code tail)) rest := by
  induction tail generalizing least greatest code with
  | nil => rfl
  | cons b tail ih =>
    obtain ⟨hleast, hgreatest, htail⟩ := h
    rw [List.length_cons, List.cons_append, readTail, ih _ htail]
    simp [hleast, hgreatest, completed]

theorem readTail_of_cut {least greatest : Nat} {part tail : List UInt8} (code : Nat)
    (h : Continues least greatest tail) (hpart : part <+: tail) (hne : part ≠ tail) :
    readTail tail.length least greatest code part = .unfinished := by
  induction tail generalizing least greatest code part with
  | nil => exact absurd (List.prefix_nil.mp hpart) hne
  | cons b tail ih =>
    obtain ⟨hleast, hgreatest, htail⟩ := h
    cases part with
    | nil => rfl
    | cons a part =>
      obtain ⟨rfl, hparts⟩ := List.cons_prefix_cons.mp hpart
      rw [List.length_cons, readTail, ih _ htail hparts (fun heq => hne (by rw [heq]))]
      simp [hleast, hgreatest]

/-- A first byte and the bytes behind it write a character. -/
def Writes (b : UInt8) (tail : List UInt8) (c : Char) : Prop :=
  ∃ l, lead? b.toNat = some l ∧ l.count = tail.length ∧ Continues l.least l.greatest tail ∧
    completed l.bits tail = c.toNat

theorem toNat_byte {n : Nat} (h : n < 0x100) : (UInt8.ofNat n).toNat = n := by
  rw [UInt8.toNat_ofNat', Nat.mod_eq_of_lt h]

/-- A byte behind the first one, which carries six bits of a number. -/
theorem toNat_tailByte (n : Nat) : (UInt8.ofNat (n % 0x40 + 0x80)).toNat = n % 0x40 + 0x80 :=
  toNat_byte (by omega)

theorem lead?_two : ∀ n < 0x20, 2 ≤ n → lead? (n + 0xC0) = some ⟨1, 0x80, 0xBF, n⟩ := by
  decide

/-- The range of the second byte keeps out overlong forms and surrogates. -/
theorem lead?_three : ∀ n < 0x10, lead? (n + 0xE0) =
    some ⟨2, if n = 0 then 0xA0 else 0x80, if n = 0xD then 0x9F else 0xBF, n⟩ := by
  decide

/-- The range of the second byte keeps out overlong forms and numbers beyond the last character. -/
theorem lead?_four : ∀ n < 5, lead? (n + 0xF0) =
    some ⟨3, if n = 0 then 0x90 else 0x80, if n = 4 then 0x8F else 0xBF, n⟩ := by
  decide

theorem writes_one {c : Char} (h : c.toNat ≤ 0x7F) : Writes (UInt8.ofNat c.toNat) [] c := by
  refine ⟨⟨0, 0, 0, c.toNat⟩, ?_, rfl, trivial, rfl⟩
  rw [toNat_byte (by omega), lead?, if_pos (by omega)]

theorem writes_two {c : Char} (hlow : 0x7F < c.toNat) (hhigh : c.toNat ≤ 0x7FF) :
    Writes (UInt8.ofNat (c.toNat / 64 % 0x20 + 0xC0)) [UInt8.ofNat (c.toNat % 0x40 + 0x80)] c := by
  rw [Nat.mod_eq_of_lt (show c.toNat / 64 < 0x20 by omega), Writes, toNat_byte (by omega),
    lead?_two _ (by omega) (by omega)]
  refine ⟨_, rfl, rfl, ?_, ?_⟩
  · simp only [Continues, toNat_tailByte, and_true]
    omega
  · simp only [completed, List.foldl_cons, List.foldl_nil, toNat_tailByte]
    omega

theorem writes_three {c : Char} (hlow : 0x7FF < c.toNat) (hhigh : c.toNat ≤ 0xFFFF)
    (hvalid : c.toNat < 0xD800 ∨ 0xDFFF < c.toNat) :
    Writes (UInt8.ofNat (c.toNat / 4096 % 0x10 + 0xE0))
      [UInt8.ofNat (c.toNat / 64 % 0x40 + 0x80), UInt8.ofNat (c.toNat % 0x40 + 0x80)] c := by
  rw [Nat.mod_eq_of_lt (show c.toNat / 4096 < 0x10 by omega), Writes, toNat_byte (by omega),
    lead?_three _ (by omega)]
  refine ⟨_, rfl, rfl, ?_, ?_⟩
  · simp only [Continues, toNat_tailByte, and_true]
    split_ifs <;> omega
  · simp only [completed, List.foldl_cons, List.foldl_nil, toNat_tailByte]
    omega

theorem writes_four {c : Char} (hlow : 0xFFFF < c.toNat) (hvalid : c.toNat < 0x110000) :
    Writes (UInt8.ofNat (c.toNat / 262144 % 0x08 + 0xF0))
      [UInt8.ofNat (c.toNat / 4096 % 0x40 + 0x80), UInt8.ofNat (c.toNat / 64 % 0x40 + 0x80),
        UInt8.ofNat (c.toNat % 0x40 + 0x80)] c := by
  rw [Nat.mod_eq_of_lt (show c.toNat / 262144 < 0x08 by omega), Writes, toNat_byte (by omega),
    lead?_four _ (by omega)]
  refine ⟨_, rfl, rfl, ?_, ?_⟩
  · simp only [Continues, toNat_tailByte, and_true]
    split_ifs <;> omega
  · simp only [completed, List.foldl_cons, List.foldl_nil, toNat_tailByte]
    omega

theorem exists_writes (c : Char) :
    ∃ b tail, String.utf8EncodeChar c = b :: tail ∧ Writes b tail c := by
  have hvalid : c.toNat < 0xD800 ∨ 0xDFFF < c.toNat ∧ c.toNat < 0x110000 := c.valid
  fun_cases String.utf8EncodeChar c with
  | case1 v h => exact ⟨_, _, rfl, writes_one h⟩
  | case2 v hlow hhigh => exact ⟨_, _, rfl, writes_two (Nat.lt_of_not_le hlow) hhigh⟩
  | case3 v _ hlow hhigh =>
    exact ⟨_, _, rfl, writes_three (Nat.lt_of_not_le hlow) hhigh (by omega)⟩
  | case4 v _ _ hlow =>
    have hlow : 0xFFFF < c.toNat := Nat.lt_of_not_le hlow
    exact ⟨_, _, rfl, writes_four hlow (by omega)⟩

/-! ### Runs of bytes -/

/-- The bytes are the beginning of a character whose last bytes are missing. -/
def Cut (part : List UInt8) : Prop :=
  ∃ c, part <+: String.utf8EncodeChar c ∧ part ≠ String.utf8EncodeChar c

theorem cut_nil : Cut [] := ⟨'a', List.nil_prefix, by decide⟩

theorem readGlyph_of_cut {b : UInt8} {part : List UInt8} (h : Cut (b :: part)) :
    readGlyph b part = .unfinished := by
  obtain ⟨c, hpart, hne⟩ := h
  obtain ⟨b', tail, hc, l, hlead, hcount, hcont, -⟩ := exists_writes c
  rw [hc] at hpart hne
  obtain ⟨rfl, hparts⟩ := List.cons_prefix_cons.mp hpart
  rw [readGlyph, hlead]
  simp only [hcount]
  exact readTail_of_cut _ hcont hparts fun heq => hne (by rw [heq])

theorem decodeWhole_of_cut {part : List UInt8} (h : Cut part) (fuel : Nat) :
    decodeWhole fuel part = ([], part) := by
  cases fuel with
  | zero => rfl
  | succ fuel =>
    cases part with
    | nil => rfl
    | cons b part => rw [decodeWhole, readGlyph_of_cut h]

theorem readGlyph_append {c : Char} {b : UInt8} {tail : List UInt8}
    (h : String.utf8EncodeChar c = b :: tail) (rest : List UInt8) :
    readGlyph b (tail ++ rest) = .char c rest := by
  obtain ⟨b', tail', hc, l, hlead, hcount, hcont, hcode⟩ := exists_writes c
  obtain ⟨rfl, rfl⟩ := List.cons.inj (h.symm.trans hc)
  rw [readGlyph, hlead]
  simp only [hcount]
  rw [readTail_append _ hcont, hcode, Char.ofNat_toNat]

theorem decodeWhole_append (s : List Char) {part : List UInt8} (hpart : Cut part) {fuel : Nat}
    (hfuel : (encode s ++ part).length ≤ fuel) :
    decodeWhole fuel (encode s ++ part) = (s, part) := by
  induction s generalizing fuel with
  | nil => exact decodeWhole_of_cut hpart fuel
  | cons c s ih =>
    obtain ⟨b, tail, hc, -⟩ := exists_writes c
    have hbytes : encode (c :: s) ++ part = b :: (tail ++ (encode s ++ part)) := by
      rw [encode, List.flatMap_cons, hc, ← encode]
      simp
    rw [hbytes] at hfuel ⊢
    obtain ⟨fuel, rfl⟩ := Nat.exists_eq_add_of_le' (Nat.le_of_add_left_le hfuel)
    rw [decodeWhole, readGlyph_append hc]
    simp only
    rw [ih (by simp at hfuel ⊢; omega)]

/-- Whole characters are read, and a cut one is left. -/
theorem validPrefix_append (s : List Char) {part : List UInt8} (hpart : Cut part) :
    validPrefix (encode s ++ part) = (s, part) := decodeWhole_append s hpart (Nat.le_refl _)

/-- The first bytes of a text are its whole characters there, and perhaps the beginning of one. -/
theorem exists_take_encode (s : List Char) (n : Nat) :
    ∃ part, (encode s).take n = encode (takeBytes s n) ++ part ∧ Cut part := by
  induction s generalizing n with
  | nil => exact ⟨[], by simp [encode, takeBytes], cut_nil⟩
  | cons c s ih =>
    rw [takeBytes, encode, List.flatMap_cons, ← encode]
    split
    · rename_i hc
      obtain ⟨part, hpart, hcut⟩ := ih (n - c.utf8Size)
      refine ⟨part, ?_, hcut⟩
      rw [List.take_append, String.length_utf8EncodeChar, hpart,
        List.take_of_length_le (by simpa using hc)]
      simp [encode]
    · rename_i hc
      refine ⟨(String.utf8EncodeChar c).take n, ?_, c, List.take_prefix _ _, fun heq => hc ?_⟩
      · rw [List.take_append_of_le_length (by rw [String.length_utf8EncodeChar]; omega)]
        rfl
      · rw [← String.length_utf8EncodeChar, ← heq, List.length_take]
        omega

theorem takeBytes_zero (s : List Char) : takeBytes s 0 = [] := by
  cases s with
  | nil => rfl
  | cons c s => rw [takeBytes, if_neg (Nat.not_le_of_gt c.utf8Size_pos)]

theorem takeBytes_of_length_le {s : List Char} {n : Nat} (h : (encode s).length ≤ n) :
    takeBytes s n = s := by
  induction s generalizing n with
  | nil => rfl
  | cons c s ih =>
    rw [encode, List.flatMap_cons, ← encode, List.length_append, String.length_utf8EncodeChar] at h
    rw [takeBytes, if_pos (by omega), ih (by omega)]

theorem takeBytes_prefix (s : List Char) {m n : Nat} (h : m ≤ n) :
    takeBytes s m <+: takeBytes s n := by
  induction s generalizing m n with
  | nil => exact List.prefix_rfl
  | cons c s ih =>
    rw [takeBytes, takeBytes]
    split
    · rw [if_pos (by omega)]
      exact List.cons_prefix_cons.mpr ⟨rfl, ih (by omega)⟩
    · exact List.nil_prefix

theorem takeBytes_prefix_self (s : List Char) (n : Nat) : takeBytes s n <+: s := by
  have h := takeBytes_prefix s (Nat.le_add_right n (encode s).length)
  rwa [takeBytes_of_length_le (s := s) (Nat.le_add_left _ n)] at h

end Workflow.Text
