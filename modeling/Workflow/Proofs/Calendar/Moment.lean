import Workflow.Calendar.Parser
import Mathlib.Algebra.Group.Nat.Defs
import Mathlib.Data.List.Basic

/-! Texts of moments: every part is read back from its digits, and so is the whole moment. -/
namespace Workflow

namespace Calendar

variable {rest : List Char}

/-- The rest of a text does not go on with a digit. -/
def NoDigit (rest : List Char) : Prop := ∀ c ∈ rest.head?, c.isDigit = false

theorem length_le_byteLength (s : List Char) : s.length ≤ byteLength s := by
  have hsum : ∀ n, n + s.length ≤ (s.map Char.utf8Size).foldl (· + ·) n := by
    induction s with
    | nil => simp
    | cons c s ih =>
      intro n
      have hpos := c.utf8Size_pos
      have hmore := ih (n + c.utf8Size)
      rw [List.map_cons, List.foldl_cons, List.length_cons]
      omega
  have hzero := hsum 0
  rwa [Nat.zero_add] at hzero

theorem takeWhile_digits {ds : List Char} (hds : ∀ c ∈ ds, c.isDigit = true) {most : ℕ}
    (hmost : ds.length ≤ most) (hrest : ds.length = most ∨ NoDigit rest) :
    ((ds ++ rest).take most).takeWhile Char.isDigit = ds := by
  rw [List.take_append, List.take_of_length_le hmost, List.takeWhile_append_of_pos hds]
  have hend : (rest.take (most - ds.length)).takeWhile Char.isDigit = [] := by
    rcases hrest with h | h
    · rw [h, Nat.sub_self, List.take_zero]
      rfl
    · cases hr : rest with
      | nil => simp
      | cons c r =>
        cases hn : most - ds.length with
        | zero => rfl
        | succ n =>
          have hc := h c (by rw [hr]; rfl)
          simp [hc]
  rw [hend, List.append_nil]

/-- A run of digits is read as its number. -/
theorem number_digits {ds : List Char} (hds : ∀ c ∈ ds, c.isDigit = true) {least most : ℕ}
    (hleast : least ≤ ds.length) (hmost : ds.length ≤ most)
    (hrest : ds.length = most ∨ NoDigit rest) (hsmall : ofDigits ds < Nat.pow 2 63) :
    number least most (ds ++ rest) = .ok (ofDigits ds, rest) := by
  have hbytes := length_le_byteLength (ds ++ rest)
  rw [List.length_append] at hbytes
  unfold number
  dsimp only
  rw [takeWhile_digits hds hmost hrest, if_neg (by omega), if_neg (by omega), if_neg (by omega),
    List.drop_left]

end Calendar

namespace Moment

/-- The digits of a number with zeros in front of them. -/
def paddedDigits (width n : ℕ) : List Char :=
  List.replicate (width - (Nat.toDigits 10 n).length) '0' ++ Nat.toDigits 10 n

theorem toList_padded (width n : ℕ) : (padded width n).toList = paddedDigits width n := by
  unfold padded paddedDigits
  simp [Nat.repr]

theorem isDigit_of_mem_paddedDigits {width n : ℕ} {c : Char} (h : c ∈ paddedDigits width n) :
    c.isDigit = true := by
  rcases List.mem_append.mp h with h | h
  · rw [(List.mem_replicate.mp h).2]
    rfl
  · exact Nat.isDigit_of_mem_toDigits (by decide) (by decide) h

theorem length_paddedDigits {width n : ℕ} (hwidth : 0 < width) (h : n < 10 ^ width) :
    (paddedDigits width n).length = width := by
  have hlen := (Nat.length_toDigits_le_iff (by decide : 1 < 10) hwidth).mpr h
  rw [paddedDigits, List.length_append, List.length_replicate]
  omega

theorem ofDigits_paddedDigits (width n : ℕ) : Calendar.ofDigits (paddedDigits width n) = n := by
  have hzeros : ∀ k, Nat.ofDigitChars 10 (List.replicate k '0') 0 = 0 := by
    intro k
    induction k with
    | zero => rfl
    | succ k ih => exact ih
  show Nat.ofDigitChars 10 (paddedDigits width n) 0 = n
  rw [paddedDigits, Nat.ofDigitChars_append, hzeros, Nat.ofDigitChars_ten_toDigits]

end Moment

namespace Calendar

open Moment (paddedDigits)

variable {rest : List Char} {width n : ℕ}

/-- A padded number is read back when it has no more digits than it is padded to. -/
theorem number_padded {least most : ℕ} (hwidth : 0 < width) (hleast : least ≤ width)
    (hn : n < 10 ^ width) (hwide : width ≤ 18) (hmost : width ≤ most)
    (hrest : width = most ∨ NoDigit rest) :
    number least most (paddedDigits width n ++ rest) = .ok (n, rest) := by
  have hlen := Moment.length_paddedDigits hwidth hn
  have hpow : 10 ^ width ≤ 10 ^ 18 := Nat.pow_le_pow_right (by decide) hwide
  have hlimit : 10 ^ 18 < Nat.pow 2 63 := by decide
  have hsmall : ofDigits (paddedDigits width n) < Nat.pow 2 63 := by
    rw [Moment.ofDigits_paddedDigits]
    omega
  have hread : number least most (paddedDigits width n ++ rest) =
      .ok (ofDigits (paddedDigits width n), rest) :=
    number_digits (fun c hc => Moment.isDigit_of_mem_paddedDigits hc) (by omega) (by omega)
      (hrest.imp_left hlen.trans) hsmall
  rwa [Moment.ofDigits_paddedDigits] at hread

theorem trimStart_cons {c : Char} (h : Text.isBlank c = false) (s : List Char) :
    Text.trimStart (c :: s) = c :: s := by
  simp [Text.trimStart, h]

theorem not_isBlank_of_isDigit {c : Char} (h : c.isDigit = true) : Text.isBlank c = false := by
  have hrange : 48 ≤ c.toNat ∧ c.toNat ≤ 57 := Char.isDigit_iff_toNat.mp h
  have hall : ∀ k < 58, 48 ≤ k → Text.isBlank (Char.ofNat k) = false := by decide
  have hblank := hall c.toNat (by omega) hrange.1
  rwa [Char.ofNat_toNat] at hblank

theorem paddedDigits_front (hwidth : 0 < width) (hn : n < 10 ^ width) :
    ∃ c s, paddedDigits width n = c :: s ∧ c.isDigit = true := by
  have hlen := Moment.length_paddedDigits hwidth hn
  cases hd : paddedDigits width n with
  | nil =>
    rw [hd] at hlen
    simp at hlen
    omega
  | cons c s =>
    exact ⟨c, s, rfl, Moment.isDigit_of_mem_paddedDigits (hd ▸ List.mem_cons_self)⟩

theorem trimStart_padded (hwidth : 0 < width) (hn : n < 10 ^ width) (rest : List Char) :
    Text.trimStart (paddedDigits width n ++ rest) = paddedDigits width n ++ rest := by
  obtain ⟨c, s, hs, hc⟩ := paddedDigits_front hwidth hn
  rw [hs, List.cons_append, trimStart_cons (not_isBlank_of_isDigit hc)]

/-- Two digits within their bounds. -/
theorem bounded_spaced {lo hi : ℕ} (hlo : lo ≤ n) (hhi : n ≤ hi) (hn : n < 100) :
    bounded (spaced 2) lo hi (paddedDigits 2 n ++ rest) = .ok (n, rest) := by
  have hread : number 1 2 (paddedDigits 2 n ++ rest) = .ok (n, rest) :=
    number_padded (by decide) (by decide) (by omega) (by decide) (by decide) (Or.inl rfl)
  unfold bounded spaced
  rw [trimStart_padded (by decide) (by omega), hread]
  simp [bind, Except.bind, hlo, hhi]

theorem spacedChar_cons {c : Char} (h : Text.isBlank c = false) :
    spacedChar c (c :: rest) = .ok ((), rest) := by
  rw [spacedChar, trimStart_cons h, char, if_pos rfl]

theorem spacedYear_padded (hn : n < 10000) :
    spacedYear (paddedDigits 4 n ++ rest) = .ok ((n : Int), rest) := by
  have hwide : n < 10 ^ 4 := by omega
  obtain ⟨c, s, hs, hc⟩ := paddedDigits_front (by decide) hwide
  have hread : number 1 4 (paddedDigits 4 n ++ rest) = .ok (n, rest) :=
    number_padded (by decide) (by decide) (by omega) (by decide) (by decide) (Or.inl rfl)
  have hlimit : Int.pow 2 31 = 2147483648 := by decide
  unfold spacedYear
  rw [trimStart_padded (by decide) (by omega)]
  rw [hs, List.cons_append] at hread ⊢
  split
  · rename_i heq
    rw [(List.cons.inj heq).1] at hc
    exact absurd hc (by decide)
  · rename_i heq
    rw [(List.cons.inj heq).1] at hc
    exact absurd hc (by decide)
  · have hpure : (Except.ok (n, rest) : Except ParseError (ℕ × List Char)) = pure (n, rest) := rfl
    rw [hread, hpure, pure_bind]
    dsimp only
    rw [pure_bind]
    dsimp only
    rw [hlimit, if_pos ⟨by omega, by omega⟩]

/-! ### Fractions of a second -/

theorem noDigit_zone (rest : List Char) : NoDigit ('Z' :: rest) := by
  intro c hc
  cases hc
  rfl

/-- A fraction in three, six or nine digits. -/
theorem fraction_padded (hwidth : 0 < width) (hwide : width ≤ 9) (hn : n < 10 ^ width)
    (hrest : NoDigit rest) :
    fraction ('.' :: (paddedDigits width n ++ rest)) = .ok (n * Nat.pow 10 (9 - width), rest) := by
  have hlen := Moment.length_paddedDigits hwidth hn
  have hread : number 1 9 (paddedDigits width n ++ rest) = .ok (n, rest) :=
    number_padded hwidth hwidth hn (by omega) hwide (Or.inr hrest)
  have hdrop : rest.dropWhile Char.isDigit = rest := by
    cases rest with
    | nil => rfl
    | cons c r => simp [hrest c rfl]
  have hdigits : (paddedDigits width n ++ rest).length - rest.length = width := by
    rw [List.length_append]
    omega
  unfold fraction nanoseconds
  simp only [hread, bind, Except.bind, hdrop, hdigits]

theorem fraction_fractionText {nanos : ℕ} (h : nanos < 1000000000) (rest : List Char) :
    fraction ((Moment.fractionText nanos).toList ++ 'Z' :: rest) = .ok (nanos, 'Z' :: rest) := by
  have hzone := noDigit_zone rest
  have hshown : ∀ width n, 0 < width → width ≤ 9 → n < 10 ^ width →
      n * Nat.pow 10 (9 - width) = nanos →
      fraction (("." ++ Moment.padded width n).toList ++ 'Z' :: rest) =
        .ok (nanos, 'Z' :: rest) := by
    intro width n hwidth hwide hn hvalue
    rw [String.toList_append, Moment.toList_padded, ← hvalue]
    exact fraction_padded hwidth hwide hn hzone
  unfold Moment.fractionText
  split
  · rename_i hzero
    rw [hzero]
    rfl
  · split
    · refine hshown 3 _ (by decide) (by decide) (by omega) ?_
      show nanos / 1000000 * 1000000 = nanos
      omega
    · split
      · refine hshown 6 _ (by decide) (by decide) (by omega) ?_
        show nanos / 1000 * 1000 = nanos
        omega
      · exact hshown 9 _ (by decide) (by decide) (by omega) (Nat.mul_one nanos)

end Calendar

/-- A moment as clocks show it: on a day of the calendar, with a leap second only behind the last
second of a minute. -/
structure Moment.Proper (m : Moment) : Prop where
  date : m.date.isValid = true
  second : m.second < 86400
  nanosecond : m.nanosecond < 2000000000
  leap : 1000000000 ≤ m.nanosecond → m.second % 60 = 59

namespace Moment

variable {m : Moment}

/-- What is read of the text of a moment is the moment. -/
theorem Proper.toMoment (h : m.Proper) :
    Calendar.Reading.toMoment {
      year := m.date.year, month := m.date.month, day := m.date.day, hour := m.second / 3600,
      minute := m.second / 60 % 60, second := m.second % 60 + m.nanosecond / 1000000000,
      nanosecond := m.nanosecond % 1000000000 } 0 = .ok m := by
  have hsecond := h.second
  have hnanos := h.nanosecond
  have hleap := h.leap
  have hlocal : ofLocal m.date m.second m.nanosecond 0 = m := by
    unfold ofLocal
    dsimp only
    rw [if_neg (by omega), if_neg (by omega), Int.sub_zero, Int.toNat_natCast]
  have hread : (if m.second % 60 + m.nanosecond / 1000000000 = 60 then 59
        else m.second % 60 + m.nanosecond / 1000000000) = m.second % 60 ∧
      m.nanosecond % 1000000000 + (if m.second % 60 + m.nanosecond / 1000000000 = 60 then 1000000000
        else 0) = m.nanosecond := by
    split <;> omega
  have hclock : m.second / 3600 * 3600 + m.second / 60 % 60 * 60 + m.second % 60 = m.second := by
    omega
  unfold Calendar.Reading.toMoment
  dsimp only
  rw [hread.1, hread.2, hclock, hlocal, h.date]
  rfl

theorem daysInMonth_le (year : Int) (month : ℕ) : Date.daysInMonth year month ≤ 31 := by
  unfold Date.daysInMonth
  split
  · split <;> omega
  all_goals omega

/-- The text of a moment, part by part. -/
theorem toList_text {year : ℕ} (hyear : m.date.year = year) (hg : year ≤ 9999) :
    m.text.toList = paddedDigits 4 year ++ '-' :: (paddedDigits 2 m.date.month ++
      '-' :: (paddedDigits 2 m.date.day ++ 'T' :: (paddedDigits 2 (m.second / 3600) ++
      ':' :: (paddedDigits 2 (m.second / 60 % 60) ++
      ':' :: (paddedDigits 2 (m.second % 60 + m.nanosecond / 1000000000) ++
      ((fractionText (m.nanosecond % 1000000000)).toList ++ ['Z'])))))) := by
  have hyearText : yearText m.date.year = padded 4 year := by
    unfold yearText
    rw [if_pos ⟨by omega, by omega⟩, hyear]
    rfl
  simp only [text, bareText, hyearText, String.toList_append, toList_padded, List.append_assoc]
  rfl

/-- The text of a moment in the years from 0 to 9999 is read back. -/
theorem Proper.relaxedMoment_text (h : m.Proper) (hl : 0 ≤ m.date.year) (hg : m.date.year ≤ 9999) :
    Calendar.relaxedMoment m.text = .ok m := by
  obtain ⟨year, hyear⟩ := Int.eq_ofNat_of_zero_le hl
  have hdate := h.date
  have hsecond := h.second
  have hnanos := h.nanosecond
  have hleap := h.leap
  have hlong := daysInMonth_le m.date.year m.date.month
  simp only [Date.isValid, Bool.and_eq_true, decide_eq_true_eq] at hdate
  have hmonth : ∀ rest, Calendar.bounded (Calendar.spaced 2) 1 12
      (paddedDigits 2 m.date.month ++ rest) = .ok (m.date.month, rest) := fun rest =>
    Calendar.bounded_spaced (by omega) (by omega) (by omega)
  have hday : ∀ rest, Calendar.bounded (Calendar.spaced 2) 1 31
      (paddedDigits 2 m.date.day ++ rest) = .ok (m.date.day, rest) := fun rest =>
    Calendar.bounded_spaced (by omega) (by omega) (by omega)
  have hhour : ∀ rest, Calendar.bounded (Calendar.spaced 2) 0 23
      (paddedDigits 2 (m.second / 3600) ++ rest) = .ok (m.second / 3600, rest) := fun rest =>
    Calendar.bounded_spaced (by omega) (by omega) (by omega)
  have hminute : ∀ rest, Calendar.bounded (Calendar.spaced 2) 0 59
      (paddedDigits 2 (m.second / 60 % 60) ++ rest) = .ok (m.second / 60 % 60, rest) := fun rest =>
    Calendar.bounded_spaced (by omega) (by omega) (by omega)
  have hshown : ∀ rest, Calendar.bounded (Calendar.spaced 2) 0 60
      (paddedDigits 2 (m.second % 60 + m.nanosecond / 1000000000) ++ rest) =
        .ok (m.second % 60 + m.nanosecond / 1000000000, rest) := fun rest =>
    Calendar.bounded_spaced (by omega) (by omega) (by omega)
  have hbelow : m.nanosecond % 1000000000 < 1000000000 := Nat.mod_lt _ (by decide)
  have hfraction := Calendar.fraction_fractionText hbelow []
  have hyearRead : ∀ rest, Calendar.spacedYear (paddedDigits 4 year ++ rest) =
      .ok ((year : Int), rest) := fun rest => Calendar.spacedYear_padded (by omega)
  have hhyphen : ∀ rest, Calendar.spacedChar '-' ('-' :: rest) = .ok ((), rest) := fun rest =>
    Calendar.spacedChar_cons (by decide)
  have hcolon : ∀ rest, Calendar.spacedChar ':' (':' :: rest) = .ok ((), rest) := fun rest =>
    Calendar.spacedChar_cons (by decide)
  have hmark : ∀ rest, Calendar.separatorT ('T' :: rest) = .ok ((), rest) := fun _ => rfl
  have hmoment := h.toMoment
  rw [hyear] at hmoment
  unfold Calendar.relaxedMoment
  rw [toList_text hyear (by omega)]
  simp only [bind, Except.bind, hyearRead, hhyphen, hmonth, hday, hmark, hhour, hcolon, hminute,
    hshown, hfraction]
  exact hmoment

end Moment
end Workflow
