import Mathlib.Data.List.Infix
import Workflow.Proofs.Text.Encoding

/-! Bytes that are no text: where reading stops for good, and that it stops only there. What is read
before is what the bytes write, and more bytes change nothing in it. -/
namespace Workflow.Text

/-! ### Characters -/

theorem utf8EncodeChar_eq (c : Char) : String.utf8EncodeChar c =
    if c.toNat ≤ 0x7F then [UInt8.ofNat c.toNat]
    else if c.toNat ≤ 0x7FF then
      [UInt8.ofNat (c.toNat / 64 % 0x20 + 0xC0), UInt8.ofNat (c.toNat % 0x40 + 0x80)]
    else if c.toNat ≤ 0xFFFF then
      [UInt8.ofNat (c.toNat / 4096 % 0x10 + 0xE0), UInt8.ofNat (c.toNat / 64 % 0x40 + 0x80),
        UInt8.ofNat (c.toNat % 0x40 + 0x80)]
    else [UInt8.ofNat (c.toNat / 262144 % 0x08 + 0xF0), UInt8.ofNat (c.toNat / 4096 % 0x40 + 0x80),
        UInt8.ofNat (c.toNat / 64 % 0x40 + 0x80), UInt8.ofNat (c.toNat % 0x40 + 0x80)] := by
  rfl

theorem ofNat_eq {n : ℕ} {b : UInt8} (h : n = b.toNat) : UInt8.ofNat n = b := by
  rw [h, UInt8.ofNat_toNat]

/-- The first bytes, by the number of bytes behind them. -/
theorem lead?_cases {n : ℕ} {l : Lead} (h : lead? n = some l) :
    (n < 0x80 ∧ l = ⟨0, 0, 0, n⟩) ∨
    (∃ m, 2 ≤ m ∧ m < 0x20 ∧ n = m + 0xC0 ∧ l = ⟨1, 0x80, 0xBF, m⟩) ∨
    (∃ m, m < 0x10 ∧ n = m + 0xE0 ∧
      l = ⟨2, if m = 0 then 0xA0 else 0x80, if m = 0xD then 0x9F else 0xBF, m⟩) ∨
    (∃ m, m < 5 ∧ n = m + 0xF0 ∧
      l = ⟨3, if m = 0 then 0x90 else 0x80, if m = 4 then 0x8F else 0xBF, m⟩) := by
  by_cases hone : n < 0x80
  · rw [lead?, if_pos hone] at h
    exact Or.inl ⟨hone, (Option.some.inj h).symm⟩
  by_cases hnone : n < 0xC2 ∨ 0xF5 ≤ n
  · simp only [lead?] at h
    split_ifs at h <;> omega
  obtain ⟨m, rfl⟩ | ⟨m, rfl⟩ | ⟨m, rfl⟩ : (∃ m : Fin 0x20, n = m + 0xC0) ∨
      (∃ m : Fin 0x10, n = m + 0xE0) ∨ ∃ m : Fin 5, n = m + 0xF0 := by
    by_cases htwo : n < 0xE0
    · exact Or.inl ⟨⟨n - 0xC0, by omega⟩, by simp; omega⟩
    · by_cases hthree : n < 0xF0
      · exact Or.inr (Or.inl ⟨⟨n - 0xE0, by omega⟩, by simp; omega⟩)
      · exact Or.inr (Or.inr ⟨⟨n - 0xF0, by omega⟩, by simp; omega⟩)
  · rw [lead?_two m m.isLt (by omega)] at h
    exact Or.inr (Or.inl ⟨m, by omega, m.isLt, rfl, (Option.some.inj h).symm⟩)
  · rw [lead?_three m m.isLt] at h
    exact Or.inr (Or.inr (Or.inl ⟨m, m.isLt, rfl, (Option.some.inj h).symm⟩))
  · rw [lead?_four m m.isLt] at h
    exact Or.inr (Or.inr (Or.inr ⟨m, m.isLt, rfl, (Option.some.inj h).symm⟩))

theorem toNat_ofNat {n : ℕ} (h : n < 0xD800 ∨ 0xDFFF < n ∧ n < 0x110000) :
    (Char.ofNat n).toNat = n := by
  rw [Char.ofNat, dif_pos h]
  rfl

/-- What is read as a character is what the character is written as. -/
theorem utf8EncodeChar_completed {b : UInt8} {l : Lead} {tail : List UInt8}
    (hl : lead? b.toNat = some l) (hcount : l.count = tail.length)
    (h : Continues l.least l.greatest tail) :
    String.utf8EncodeChar (Char.ofNat (completed l.bits tail)) = b :: tail := by
  rcases lead?_cases hl with ⟨hb, rfl⟩ | ⟨m, hlow, hhigh, hb, rfl⟩ | ⟨m, hm, hb, rfl⟩ |
    ⟨m, hm, hb, rfl⟩
  · obtain rfl := List.eq_nil_of_length_eq_zero hcount.symm
    simp only [completed, List.foldl_nil]
    rw [utf8EncodeChar_eq, toNat_ofNat (by omega), if_pos (by omega), ofNat_eq rfl]
  · obtain ⟨t, rfl⟩ := List.length_eq_one_iff.mp hcount.symm
    simp only [Continues, and_true] at h
    simp only [completed, List.foldl_cons, List.foldl_nil]
    rw [utf8EncodeChar_eq, toNat_ofNat (by omega), if_neg (by omega), if_pos (by omega),
      ofNat_eq (b := b) (by omega), ofNat_eq (b := t) (by omega)]
  · obtain ⟨t, u, rfl⟩ := List.length_eq_two.mp hcount.symm
    simp only [Continues, and_true] at h
    simp only [completed, List.foldl_cons, List.foldl_nil]
    split_ifs at h
    all_goals
      rw [utf8EncodeChar_eq, toNat_ofNat (by omega), if_neg (by omega), if_neg (by omega),
        if_pos (by omega), ofNat_eq (b := b) (by omega), ofNat_eq (b := t) (by omega),
        ofNat_eq (b := u) (by omega)]
  · obtain ⟨t, u, v, rfl⟩ := List.length_eq_three.mp hcount.symm
    simp only [Continues, and_true] at h
    simp only [completed, List.foldl_cons, List.foldl_nil]
    split_ifs at h
    all_goals
      rw [utf8EncodeChar_eq, toNat_ofNat (by omega), if_neg (by omega), if_neg (by omega),
        if_neg (by omega), ofNat_eq (b := b) (by omega), ofNat_eq (b := t) (by omega),
        ofNat_eq (b := u) (by omega), ofNat_eq (b := v) (by omega)]

/-! ### What stands at the beginning of a run of bytes -/

theorem exists_of_readTail_char {count least greatest code : ℕ} {rest left : List UInt8} {c : Char}
    (h : readTail count least greatest code rest = .char c left) :
    ∃ tail, rest = tail ++ left ∧ count = tail.length ∧ Continues least greatest tail ∧
      c = Char.ofNat (completed code tail) := by
  induction count generalizing least greatest code rest with
  | zero =>
    cases h
    exact ⟨[], rfl, rfl, trivial, rfl⟩
  | succ count ih =>
    cases rest with
    | nil => cases h
    | cons b rest =>
      rw [readTail] at h
      split at h
      · rename_i hb
        obtain ⟨hleast, hgreatest⟩ := Bool.and_eq_true_iff.mp hb
        obtain ⟨tail, rfl, rfl, htail, hc⟩ := ih h
        refine ⟨b :: tail, rfl, rfl,
          ⟨of_decide_eq_true hleast, of_decide_eq_true hgreatest, htail⟩, ?_⟩
        rw [hc, completed, completed, List.foldl_cons]
      · cases h

theorem continues_of_readTail {count least greatest code : ℕ} {rest : List UInt8}
    (h : readTail count least greatest code rest = .unfinished) :
    rest.length < count ∧ Continues least greatest rest := by
  induction count generalizing least greatest code rest with
  | zero => cases h
  | succ count ih =>
    cases rest with
    | nil => exact ⟨Nat.succ_pos count, trivial⟩
    | cons b rest =>
      rw [readTail] at h
      split at h
      · rename_i hb
        obtain ⟨hleast, hgreatest⟩ := Bool.and_eq_true_iff.mp hb
        obtain ⟨hlen, htail⟩ := ih h
        exact ⟨Nat.succ_lt_succ hlen,
          of_decide_eq_true hleast, of_decide_eq_true hgreatest, htail⟩
      · cases h

/-- Bytes behind a first byte can be completed to as many as it asks for. -/
theorem exists_continues {count least greatest : ℕ} {rest : List UInt8} (hle : least ≤ greatest)
    (hbyte : greatest < 0x100) (h : Continues least greatest rest) (hlen : rest.length ≤ count) :
    ∃ tail, count = tail.length ∧ Continues least greatest tail ∧ rest <+: tail := by
  induction count generalizing least greatest rest with
  | zero => exact ⟨rest, (Nat.le_zero.mp hlen).symm, h, List.prefix_rfl⟩
  | succ count ih =>
    cases rest with
    | nil =>
      obtain ⟨tail, hcount, htail, -⟩ :=
        @ih 0x80 0xBF [] (by decide) (by decide) trivial (Nat.zero_le count)
      have hleast : (UInt8.ofNat least).toNat = least := toNat_byte (by omega)
      exact ⟨UInt8.ofNat least :: tail, by rw [hcount, List.length_cons],
        ⟨hleast.ge, hleast.le.trans hle, htail⟩, List.nil_prefix⟩
    | cons b rest =>
      obtain ⟨hleast, hgreatest, hrest⟩ := h
      obtain ⟨tail, hcount, htail, hpre⟩ :=
        ih (show 0x80 ≤ 0xBF by decide) (by decide) hrest (Nat.le_of_succ_le_succ hlen)
      exact ⟨b :: tail, by rw [hcount, List.length_cons], ⟨hleast, hgreatest, htail⟩,
        List.cons_prefix_cons.mpr ⟨rfl, hpre⟩⟩

/-- A character is read only from the bytes that write it. -/
theorem eq_append_of_readGlyph {b : UInt8} {rest left : List UInt8} {c : Char}
    (h : readGlyph b rest = .char c left) : b :: rest = String.utf8EncodeChar c ++ left := by
  unfold readGlyph at h
  split at h
  · cases h
  · rename_i l hl
    obtain ⟨tail, rfl, hcount, htail, rfl⟩ := exists_of_readTail_char h
    rw [utf8EncodeChar_completed hl hcount htail, List.cons_append]

/-- What seems to be the beginning of a character is the beginning of one. -/
theorem cut_of_readGlyph {b : UInt8} {rest : List UInt8} (h : readGlyph b rest = .unfinished) :
    Cut (b :: rest) := by
  unfold readGlyph at h
  split at h
  · cases h
  · rename_i l hl
    obtain ⟨hlen, hrest⟩ := continues_of_readTail h
    obtain ⟨hle, hbyte⟩ : l.least ≤ l.greatest ∧ l.greatest < 0x100 := by
      rcases lead?_cases hl with ⟨-, rfl⟩ | ⟨m, -, -, -, rfl⟩ | ⟨m, -, -, rfl⟩ | ⟨m, -, -, rfl⟩
      · exact ⟨Nat.le_refl 0, show 0 < 0x100 by decide⟩
      · exact ⟨show 0x80 ≤ 0xBF by decide, show 0xBF < 0x100 by decide⟩
      · dsimp only
        split_ifs <;> omega
      · dsimp only
        split_ifs <;> omega
    obtain ⟨tail, hcount, htail, hpre⟩ := exists_continues hle hbyte hrest hlen.le
    refine ⟨Char.ofNat (completed l.bits tail), ?_, ?_⟩
    · rw [utf8EncodeChar_completed hl hcount htail]
      exact List.cons_prefix_cons.mpr ⟨rfl, hpre⟩
    · rw [utf8EncodeChar_completed hl hcount htail]
      intro heq
      have hlength := congrArg List.length (List.cons.inj heq).2
      omega

theorem readTail_append_of_malformed {count least greatest code : ℕ} {rest left : List UInt8}
    (h : readTail count least greatest code rest = .malformed left) (more : List UInt8) :
    readTail count least greatest code (rest ++ more) = .malformed (left ++ more) := by
  induction count generalizing least greatest code rest with
  | zero => cases h
  | succ count ih =>
    cases rest with
    | nil => cases h
    | cons b rest =>
      rw [List.cons_append, readTail]
      rw [readTail] at h
      split at h
      · rename_i hb
        rw [if_pos hb]
        exact ih h
      · rename_i hb
        rw [if_neg hb]
        cases h
        rfl

theorem readGlyph_append_of_malformed {b : UInt8} {rest left : List UInt8}
    (h : readGlyph b rest = .malformed left) (more : List UInt8) :
    readGlyph b (rest ++ more) = .malformed (left ++ more) := by
  unfold readGlyph at h ⊢
  split at h
  · cases h
    rfl
  · exact readTail_append_of_malformed h more

/-! ### Where reading stops -/

/-- At the front of the bytes stands neither a character nor the beginning of one. -/
def Stuck (bytes : List UInt8) : Prop :=
  ¬ Cut bytes ∧ ∀ c, ¬ String.utf8EncodeChar c <+: bytes

theorem stuck_iff {bytes : List UInt8} :
    Stuck bytes ↔ ∃ b rest left, bytes = b :: rest ∧ readGlyph b rest = .malformed left := by
  constructor
  · rintro ⟨hcut, hchar⟩
    cases bytes with
    | nil => exact absurd cut_nil hcut
    | cons b rest =>
      cases hglyph : readGlyph b rest with
      | char c left => exact absurd ⟨left, (eq_append_of_readGlyph hglyph).symm⟩ (hchar c)
      | malformed left => exact ⟨b, rest, left, rfl, hglyph⟩
      | unfinished => exact absurd (cut_of_readGlyph hglyph) hcut
  · rintro ⟨b, rest, left, rfl, hglyph⟩
    refine ⟨fun hcut => ?_, fun c hchar => ?_⟩
    · rw [readGlyph_of_cut hcut] at hglyph
      cases hglyph
    · obtain ⟨b', tail, hc, -⟩ := exists_writes c
      obtain ⟨more, hmore⟩ := hchar
      rw [hc] at hmore
      obtain ⟨rfl, rfl⟩ := List.cons.inj hmore
      rw [List.append_eq, readGlyph_append hc] at hglyph
      cases hglyph

theorem Stuck.append {bytes : List UInt8} (h : Stuck bytes) (more : List UInt8) :
    Stuck (bytes ++ more) := by
  obtain ⟨b, rest, left, rfl, hglyph⟩ := stuck_iff.mp h
  exact stuck_iff.mpr
    ⟨b, rest ++ more, left ++ more, rfl, readGlyph_append_of_malformed hglyph more⟩

theorem Stuck.validPrefix_eq {bytes : List UInt8} (h : Stuck bytes) :
    validPrefix bytes = ([], bytes) := by
  obtain ⟨b, rest, left, rfl, hglyph⟩ := stuck_iff.mp h
  rw [validPrefix, List.length_cons, decodeWhole, hglyph]

theorem length_lt_of_readGlyph {b : UInt8} {rest left : List UInt8} {c : Char}
    (h : readGlyph b rest = .char c left) : left.length < (b :: rest).length := by
  have hpos := c.utf8Size_pos
  rw [eq_append_of_readGlyph h, List.length_append, String.length_utf8EncodeChar]
  omega

/-- Fuel beyond the number of bytes makes no difference. -/
theorem decodeWhole_eq_validPrefix {fuel : ℕ} {bytes : List UInt8} (h : bytes.length ≤ fuel) :
    decodeWhole fuel bytes = validPrefix bytes := by
  induction hn : bytes.length using Nat.strong_induction_on generalizing fuel bytes with
  | _ n ih =>
    cases bytes with
    | nil =>
      rw [validPrefix]
      cases fuel <;> rfl
    | cons b rest =>
      obtain ⟨fuel, rfl⟩ := Nat.exists_eq_add_of_le' (Nat.le_of_add_left_le h)
      rw [validPrefix, List.length_cons, decodeWhole, decodeWhole]
      cases hglyph : readGlyph b rest with
      | char c left =>
        have hlt := length_lt_of_readGlyph hglyph
        simp only [List.length_cons] at h hn hlt
        simp only
        rw [ih _ (by omega) (show left.length ≤ fuel by omega) rfl,
          ih _ (by omega) (show left.length ≤ rest.length by omega) rfl]
      | malformed left => rfl
      | unfinished => rfl

theorem validPrefix_encode_append (s : List Char) (bytes : List UInt8) :
    validPrefix (encode s ++ bytes) = (s ++ (validPrefix bytes).1, (validPrefix bytes).2) := by
  induction s with
  | nil => rfl
  | cons c s ih =>
    obtain ⟨b, tail, hc, -⟩ := exists_writes c
    have hbytes : encode (c :: s) ++ bytes = b :: (tail ++ (encode s ++ bytes)) := by
      rw [encode, List.flatMap_cons, hc, ← encode]
      simp
    rw [hbytes, validPrefix, List.length_cons, decodeWhole, readGlyph_append hc]
    simp only
    rw [decodeWhole_eq_validPrefix (by simp), ih]
    rfl

/-- Reading takes whole characters, up to the beginning of one or to where it is stuck. -/
theorem validPrefix_spec (bytes : List UInt8) :
    bytes = encode (validPrefix bytes).1 ++ (validPrefix bytes).2 ∧
      (Cut (validPrefix bytes).2 ∨ Stuck (validPrefix bytes).2) := by
  induction hn : bytes.length using Nat.strong_induction_on generalizing bytes with
  | _ n ih =>
    cases bytes with
    | nil => exact ⟨rfl, Or.inl cut_nil⟩
    | cons b rest =>
      cases hglyph : readGlyph b rest with
      | char c left =>
        obtain ⟨hleft, hstop⟩ := ih _ (hn ▸ length_lt_of_readGlyph hglyph) left rfl
        have hbytes := eq_append_of_readGlyph hglyph
        have hread : validPrefix (b :: rest) =
            (c :: (validPrefix left).1, (validPrefix left).2) := by
          have h := validPrefix_encode_append [c] left
          rwa [encode, List.flatMap_singleton, ← hbytes] at h
        rw [hread]
        refine ⟨?_, hstop⟩
        rw [hbytes, encode, List.flatMap_cons, ← encode, List.append_assoc, ← hleft]
      | malformed left =>
        have hstuck : Stuck (b :: rest) := stuck_iff.mpr ⟨b, rest, left, rfl, hglyph⟩
        rw [hstuck.validPrefix_eq]
        exact ⟨rfl, Or.inr hstuck⟩
      | unfinished =>
        have hcut := cut_of_readGlyph hglyph
        rw [← List.nil_append (b :: rest)]
        exact (validPrefix_append [] hcut).symm ▸ ⟨rfl, Or.inl hcut⟩

/-- Bytes may be read in two parts. -/
theorem validPrefix_append_bytes (bytes more : List UInt8) :
    validPrefix (bytes ++ more) =
      ((validPrefix bytes).1 ++ (validPrefix ((validPrefix bytes).2 ++ more)).1,
        (validPrefix ((validPrefix bytes).2 ++ more)).2) := by
  nth_rewrite 1 [(validPrefix_spec bytes).1]
  rw [List.append_assoc, validPrefix_encode_append]

/-! ### Malformed bytes -/

/-- The bytes are no text, not even with a last character whose last bytes are missing. -/
def Malformed (bytes : List UInt8) : Prop := ∀ s part, Cut part → bytes ≠ encode s ++ part

/-- Malformed bytes begin with a text, behind which reading is stuck. -/
theorem malformed_iff {bytes : List UInt8} :
    Malformed bytes ↔ ∃ s bad, bytes = encode s ++ bad ∧ Stuck bad := by
  obtain ⟨hbytes, hstop⟩ := validPrefix_spec bytes
  constructor
  · exact fun h => ⟨_, _, hbytes, hstop.resolve_left fun hcut => h _ _ hcut hbytes⟩
  · rintro ⟨s, bad, rfl, hbad⟩ t part hcut heq
    have hread := validPrefix_append t hcut
    rw [← heq, validPrefix_encode_append, hbad.validPrefix_eq] at hread
    obtain rfl : bad = part := (Prod.mk.inj hread).2
    exact hbad.1 hcut

/-- Where bytes are malformed, something else is put in their place. -/
theorem exists_decodeLossy (s : List Char) {bytes : List UInt8} (h : Stuck bytes) :
    ∃ rest, decodeLossy (encode s ++ bytes) = s ++ replacement :: rest := by
  have hany : ∀ fuel, (encode s ++ bytes).length ≤ fuel →
      ∃ rest, decodeAny fuel (encode s ++ bytes) = s ++ replacement :: rest := by
    induction s with
    | nil =>
      intro fuel hfuel
      obtain ⟨b, rest, left, rfl, hglyph⟩ := stuck_iff.mp h
      obtain ⟨fuel, rfl⟩ := Nat.exists_eq_add_of_le' (Nat.le_of_add_left_le hfuel)
      refine ⟨decodeAny fuel left, ?_⟩
      show decodeAny (fuel + 1) (b :: rest) = _
      rw [decodeAny, hglyph]
      rfl
    | cons c s ih =>
      intro fuel hfuel
      obtain ⟨b, tail, hc, -⟩ := exists_writes c
      have hbytes : encode (c :: s) ++ bytes = b :: (tail ++ (encode s ++ bytes)) := by
        rw [encode, List.flatMap_cons, hc, ← encode]
        simp
      rw [hbytes] at hfuel ⊢
      obtain ⟨fuel, rfl⟩ := Nat.exists_eq_add_of_le' (Nat.le_of_add_left_le hfuel)
      obtain ⟨rest, hrest⟩ := ih fuel (by simp at hfuel ⊢; omega)
      refine ⟨rest, ?_⟩
      rw [decodeAny, readGlyph_append hc]
      simp only [hrest]
      rfl
  exact hany _ (Nat.le_refl _)

end Workflow.Text
