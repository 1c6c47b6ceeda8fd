import Workflow.EventStream.Parser
import Mathlib.Data.List.Basic
import Mathlib.Data.List.Infix

/-! Feeding a parser piece by piece gives the same events as feeding the whole text, as long as no
carriage return stands before a line end that has one of its own. -/
namespace Workflow.EventStream

/-! ### Line ends -/

theorem replace_of_not_mem {s : List Char} (h : '\r' ∉ s) :
    Text.replaceFrom ['\r', '\n'] ['\n'] 0 s = s := by
  induction s with
  | nil => rfl
  | cons c s ih =>
    rw [List.mem_cons, not_or] at h
    obtain ⟨hc, hs⟩ := h
    have hpre : ['\r', '\n'].isPrefixOf (c :: s) = false := by simp [List.isPrefixOf, hc]
    rw [Text.replaceFrom, hpre, ih hs]
    rfl

theorem plainLineEnds_eq (s : List Char) :
    plainLineEnds s = Text.replaceFrom ['\r', '\n'] ['\n'] 0 s := by
  rw [plainLineEnds]
  split
  · rfl
  · rename_i h
    exact (replace_of_not_mem (by simpa using h)).symm

@[simp] theorem plainLineEnds_nil : plainLineEnds [] = [] := rfl

@[simp] theorem plainLineEnds_return (s : List Char) :
    plainLineEnds ('\r' :: '\n' :: s) = '\n' :: plainLineEnds s := by
  rw [plainLineEnds_eq, plainLineEnds_eq]
  rfl

/-- A character that does not begin a line end stays. -/
theorem plainLineEnds_cons {c : Char} {s : List Char} (h : c = '\r' → s.head? ≠ some '\n') :
    plainLineEnds (c :: s) = c :: plainLineEnds s := by
  have hpre : ['\r', '\n'].isPrefixOf (c :: s) = false := by
    cases s with
    | nil => simp [List.isPrefixOf]
    | cons d s =>
      by_cases hc : c = '\r'
      · have hd := h hc
        simp at hd
        simp [List.isPrefixOf, hc, Ne.symm hd]
      · simp [List.isPrefixOf, Ne.symm hc]
  rw [plainLineEnds_eq, plainLineEnds_eq, Text.replaceFrom, hpre]
  rfl

/-- Induction over the line ends of a text. -/
theorem lineEnds_induction {P : List Char → Prop} (hnil : P [])
    (hreturn : ∀ s, P s → P ('\r' :: '\n' :: s))
    (hcons : ∀ c s, (c = '\r' → s.head? ≠ some '\n') → P s → P (c :: s)) (s : List Char) : P s := by
  -- A line end takes two characters, so the text without its first character is needed as well.
  have hboth : P s ∧ P s.tail := by
    induction s with
    | nil => exact ⟨hnil, hnil⟩
    | cons c s ih =>
      refine ⟨?_, ih.1⟩
      by_cases h : c = '\r' ∧ s.head? = some '\n'
      · obtain ⟨rfl, hs⟩ := h
        obtain ⟨s, rfl⟩ := List.head?_eq_some_iff.mp hs
        exact hreturn s ih.2
      · exact hcons c s (fun hc hs => h ⟨hc, hs⟩) ih.1
  exact hboth.1

theorem plainLineEnds_ne_nil {s : List Char} (h : s ≠ []) : plainLineEnds s ≠ [] := by
  induction s using lineEnds_induction with
  | hnil => exact absurd rfl h
  | hreturn s => rw [plainLineEnds_return]; nofun
  | hcons c s hc => rw [plainLineEnds_cons hc]; nofun

/-- A text without a carriage return before a line end that has one of its own. -/
def Tidy (s : List Char) : Prop := ¬ ['\r', '\r', '\n'] <:+: s

theorem Tidy.of_cons {c : Char} {s : List Char} (h : Tidy (c :: s)) : Tidy s :=
  fun hs => h (List.infix_cons hs)

/-- A carriage return that begins no line end does not come to begin one. -/
theorem head?_plainLineEnds {s : List Char} (h : Tidy ('\r' :: s)) (hs : s.head? ≠ some '\n') :
    (plainLineEnds s).head? ≠ some '\n' := by
  cases s with
  | nil => nofun
  | cons c s =>
    have hc : c = '\r' → s.head? ≠ some '\n' := by
      rintro rfl hn
      obtain ⟨s, rfl⟩ := List.head?_eq_some_iff.mp hn
      exact h ⟨[], s, rfl⟩
    rwa [plainLineEnds_cons hc]

/-- What has been made plain may be made plain again with more text behind it. -/
theorem plainLineEnds_append {s : List Char} (h : Tidy s) (t : List Char) :
    plainLineEnds (plainLineEnds s ++ t) = plainLineEnds (s ++ t) := by
  induction s using lineEnds_induction with
  | hnil => rfl
  | hreturn s ih =>
    rw [plainLineEnds_return, List.cons_append, plainLineEnds_cons (by nofun), ih h.of_cons.of_cons,
      List.cons_append, List.cons_append, plainLineEnds_return]
  | hcons c s hc ih =>
    cases s with
    | nil => rw [plainLineEnds_cons hc]; rfl
    | cons d s =>
      have hplain : c = '\r' → (plainLineEnds (d :: s) ++ t).head? ≠ some '\n' := by
        rintro rfl
        rw [List.head?_append_of_ne_nil _ (plainLineEnds_ne_nil (by simp))]
        exact head?_plainLineEnds h (hc rfl)
      rw [plainLineEnds_cons hc, List.cons_append, plainLineEnds_cons hplain, ih h.of_cons]
      exact (plainLineEnds_cons (s := d :: s ++ t) hc).symm

/-- Front parts that are plain stay as they are, if they do not end in half a line end. -/
theorem plainLineEnds_of_plain {s t : List Char} (h : plainLineEnds (s ++ t) = s ++ t)
    (hs : s.getLast? ≠ some '\r') (u : List Char) :
    plainLineEnds (s ++ u) = s ++ plainLineEnds u := by
  induction s using lineEnds_induction with
  | hnil => rfl
  | hreturn s =>
    rw [List.cons_append, List.cons_append, plainLineEnds_return] at h
    cases h
  | hcons c s hc ih =>
    cases s with
    | nil =>
      have hc' : c ≠ '\r' := fun heq => hs (by rw [heq]; rfl)
      exact plainLineEnds_cons fun heq => absurd heq hc'
    | cons d s =>
      have hcons (v : List Char) :
          plainLineEnds (c :: (d :: s ++ v)) = c :: plainLineEnds (d :: s ++ v) :=
        plainLineEnds_cons hc
      rw [List.cons_append, hcons] at h
      rw [List.cons_append, hcons, ih (List.cons.inj h).2 (by simpa using hs)]
      rfl

/-! ### Blocks -/

/-- The lines of a block, the last one with its end: none of them is empty. -/
def Solid (block : List Char) : Prop := ¬ ['\n', '\n'] <:+: block ++ ['\n']

theorem solid_nil : Solid [] := fun h => absurd h.length_le (by decide)

theorem solid_cons {c : Char} {block : List Char} : Solid (c :: block) ↔
    (c = '\n' → (block ++ ['\n']).head? ≠ some '\n') ∧ Solid block := by
  rw [Solid, List.cons_append, List.infix_cons_iff, not_or, ← Solid, List.cons_prefix_cons]
  refine and_congr_left fun _ => ?_
  rw [not_and, eq_comm]
  cases block with
  | nil => simp
  | cons d block => simp [List.cons_prefix_cons, eq_comm]

/-- A block goes up to the first empty line. -/
theorem cutBlock?_eq_some_iff {s block rest : List Char} : cutBlock? s = some (block, rest) ↔
    s = block ++ '\n' :: '\n' :: rest ∧ Solid block := by
  constructor
  · intro h
    fun_induction cutBlock? s generalizing block with
    | case1 => cases h
    | case2 =>
      cases h
      exact ⟨rfl, solid_nil⟩
    | case3 c s hc ih =>
      obtain ⟨⟨block, rest⟩, hs, heq⟩ := Option.map_eq_some_iff.mp h
      cases heq
      obtain ⟨rfl, hsolid⟩ := ih hs
      refine ⟨rfl, solid_cons.mpr ⟨fun hn hhead => ?_, hsolid⟩⟩
      cases block with
      | nil => exact hc _ hn rfl
      | cons d block => exact hc _ hn (by rw [Option.some.inj hhead]; rfl)
  · rintro ⟨rfl, h⟩
    induction block with
    | nil => rfl
    | cons c block ih =>
      obtain ⟨hc, hblock⟩ := solid_cons.mp h
      have hne : ∀ r, c = '\n' → block ++ '\n' :: '\n' :: rest = '\n' :: r → False := by
        rintro r rfl hr
        cases block with
        | nil => exact hc rfl rfl
        | cons d block => exact hc rfl (by rw [(List.cons.inj hr).1]; rfl)
      rw [List.cons_append, cutBlock?.eq_3 _ _ hne, ih hblock]
      rfl

/-- The events of the finished blocks of a text, and the text that is left. -/
def blocks (s : List Char) : List Message × List Char := takeBlocks s.length s

theorem takeBlocks_of_none {s : List Char} (h : cutBlock? s = none) (fuel : Nat) :
    takeBlocks fuel s = ([], s) := by
  cases fuel with
  | zero => rfl
  | succ fuel => rw [takeBlocks, h]

/-- Fuel beyond the length of the text makes no difference. -/
theorem takeBlocks_eq_blocks {fuel : Nat} {s : List Char} (h : s.length ≤ fuel) :
    takeBlocks fuel s = blocks s := by
  induction hn : s.length using Nat.strong_induction_on generalizing fuel s with
  | _ n ih =>
    cases hcut : cutBlock? s with
    | none => rw [blocks, takeBlocks_of_none hcut, takeBlocks_of_none hcut]
    | some cut =>
      have hlen : s.length = cut.1.length + cut.2.length + 1 + 1 := by
        rw [(cutBlock?_eq_some_iff.mp hcut).1, List.length_append]
        exact (Nat.add_assoc ..).symm
      obtain ⟨fuel, rfl⟩ := Nat.exists_eq_add_of_le' (show 1 ≤ fuel by omega)
      rw [blocks, hlen, takeBlocks, takeBlocks, hcut]
      simp only
      rw [ih _ (by omega) (show cut.2.length ≤ fuel by omega) rfl,
        ih _ (by omega) (show cut.2.length ≤ cut.1.length + cut.2.length + 1 by omega) rfl]

theorem blocks_append {block : List Char} (h : Solid block) (rest : List Char) :
    blocks (block ++ '\n' :: '\n' :: rest) =
      ((message? block).toList ++ (blocks rest).1, (blocks rest).2) := by
  have hlen : (block ++ '\n' :: '\n' :: rest).length = (block.length + 1 + rest.length) + 1 := by
    simp only [List.length_append, List.length_cons]
    omega
  rw [blocks, hlen, takeBlocks, cutBlock?_eq_some_iff.mpr ⟨rfl, h⟩]
  simp only
  rw [takeBlocks_eq_blocks (by omega)]

/-- What has been cut off as blocks stays cut off when more text comes. -/
theorem exists_done (s : List Char) : ∃ done, s = done ++ (blocks s).2 ∧
    done.getLast? ≠ some '\r' ∧
    ∀ t, blocks (done ++ t) = ((blocks s).1 ++ (blocks t).1, (blocks t).2) := by
  induction hn : s.length using Nat.strong_induction_on generalizing s with
  | _ n ih =>
    cases hcut : cutBlock? s with
    | none =>
      rw [blocks, takeBlocks_of_none hcut]
      exact ⟨[], rfl, nofun, fun t => rfl⟩
    | some cut =>
      obtain ⟨block, rest⟩ := cut
      obtain ⟨rfl, hsolid⟩ := cutBlock?_eq_some_iff.mp hcut
      obtain ⟨done, hdone, hlast, hblocks⟩ := ih rest.length (by simp at hn; omega) rest rfl
      rw [blocks_append hsolid]
      refine ⟨block ++ '\n' :: '\n' :: done, ?_, ?_, fun t => ?_⟩
      · rw [List.append_assoc, List.cons_append, List.cons_append, ← hdone]
      · cases done with
        | nil => simp
        | cons c done => simpa using hlast
      · rw [List.append_assoc, List.cons_append, List.cons_append, blocks_append hsolid, hblocks,
          List.append_assoc]

/-! ### Feeding -/

theorem feed_eq (p : Parser) (chunk : List Char) : p.feed chunk =
    ((blocks (plainLineEnds (p.buffer ++ chunk))).1,
      ⟨(blocks (plainLineEnds (p.buffer ++ chunk))).2⟩) := rfl

/-- A text may be fed in two parts. -/
theorem feed_append {s : List Char} (h : Tidy s) (t : List Char) :
    Parser.feed {} (s ++ t) =
      ((Parser.feed {} s).1 ++ ((Parser.feed {} s).2.feed t).1,
        ((Parser.feed {} s).2.feed t).2) := by
  obtain ⟨done, hdone, hlast, hblocks⟩ := exists_done (plainLineEnds s)
  -- The text is plain where blocks have been cut off, and it stays so.
  have hplain : plainLineEnds (done ++ (blocks (plainLineEnds s)).2) =
      done ++ (blocks (plainLineEnds s)).2 := by
    rw [← hdone]
    simpa using plainLineEnds_append h []
  have hsplit : plainLineEnds (s ++ t) =
      done ++ plainLineEnds ((blocks (plainLineEnds s)).2 ++ t) := by
    rw [← plainLineEnds_append h]
    nth_rewrite 1 [hdone]
    rw [List.append_assoc, plainLineEnds_of_plain hplain hlast]
  simp only [feed_eq, List.nil_append, hsplit, hblocks]

end Workflow.EventStream
