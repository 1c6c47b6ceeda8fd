import Workflow.Proofs.EventStream.Feeding
import Workflow.Proofs.Text.Search

/-! How events are written, with comments among their lines, and that a parser reads them back. -/
namespace Workflow.EventStream

/-! ### Written events -/

/-- The lines of an event: its type if it has one, and each line of its data. -/
def Message.lines (m : Message) : List (List Char) :=
  (m.type.map fun t => "event: ".toList ++ t.toList).toList ++
    (m.data.toList.splitOn '\n').map ("data: ".toList ++ ·)

/-- The event can be written: white space before its type, line ends in it, and carriage returns in
its data would be lost. -/
structure Message.Writable (m : Message) : Prop where
  type_line : ∀ t, m.type = some t → '\r' ∉ t.toList ∧ '\n' ∉ t.toList
  type_head : ∀ t, m.type = some t → ∀ c ∈ t.toList.head?, Text.isBlank c = false
  data_line : '\r' ∉ m.data.toList

def IsComment (line : List Char) : Prop := ∃ text, line = ':' :: text ∧ '\r' ∉ text ∧ '\n' ∉ text

/-- The lines with comments put anywhere among them. -/
inductive Commented : List (List Char) → List (List Char) → Prop
  | nil : Commented [] []
  | line {line : List Char} {lines all : List (List Char)} :
      Commented lines all → Commented (line :: lines) (line :: all)
  | comment {line : List Char} {lines all : List (List Char)} :
      IsComment line → Commented lines all → Commented lines (line :: all)

/-- The events are written as blocks of lines, with blocks of comments among them. -/
inductive Written : List Message → List (List (List Char)) → Prop
  | nil : Written [] []
  | event {m : Message} {block : List (List Char)} {messages : List Message}
      {blocks : List (List (List Char))} :
      m.Writable → Commented m.lines block → Written messages blocks →
      Written (m :: messages) (block :: blocks)
  | comments {block : List (List Char)} {messages : List Message}
      {blocks : List (List (List Char))} :
      block ≠ [] → Commented [] block → Written messages blocks →
      Written messages (block :: blocks)

/-- Lines, each with its end. -/
def lineText (ending : List Char) (lines : List (List Char)) : List Char :=
  lines.flatMap (· ++ ending)

/-- Blocks, each with an empty line at its end. -/
def blockText (ending : List Char) (blocks : List (List (List Char))) : List Char :=
  blocks.flatMap fun block => lineText ending block ++ ending

theorem lineText_cons (ending line : List Char) (lines : List (List Char)) (rest : List Char) :
    lineText ending (line :: lines) ++ rest =
      line ++ (ending ++ (lineText ending lines ++ rest)) := by
  simp [lineText]

theorem blockText_cons (ending : List Char) (block : List (List Char))
    (bs : List (List (List Char))) (rest : List Char) :
    blockText ending (block :: bs) ++ rest =
      lineText ending block ++ (ending ++ (blockText ending bs ++ rest)) := by
  simp [blockText]

/-! ### Lines -/

/-- What the lines of a block are like: not empty, and without line ends. -/
def IsLine (line : List Char) : Prop := line ≠ [] ∧ '\r' ∉ line ∧ '\n' ∉ line

theorem IsComment.isLine {line : List Char} (h : IsComment line) : IsLine line := by
  obtain ⟨text, rfl, hr, hn⟩ := h
  exact ⟨nofun, by simp [hr], by simp [hn]⟩

theorem Commented.forall_isLine {lines all : List (List Char)} (h : Commented lines all)
    (hlines : ∀ line ∈ lines, IsLine line) : ∀ line ∈ all, IsLine line := by
  induction h with
  | nil => exact hlines
  | line _ ih =>
    obtain ⟨hline, hlines⟩ := List.forall_mem_cons.mp hlines
    exact List.forall_mem_cons.mpr ⟨hline, ih hlines⟩
  | comment hcomment _ ih => exact List.forall_mem_cons.mpr ⟨hcomment.isLine, ih hlines⟩

theorem mem_of_mem_splitOn {a c : Char} {s part : List Char} (hpart : part ∈ s.splitOn a)
    (hc : c ∈ part) : c ∈ s ∧ c ≠ a := by
  induction s generalizing part with
  | nil =>
    rw [List.splitOn_nil, List.mem_singleton] at hpart
    subst hpart
    cases hc
  | cons d s ih =>
    obtain ⟨first, parts, hparts⟩ := List.exists_cons_of_ne_nil (List.splitOn_ne_nil a s)
    rw [hparts] at ih
    rw [List.splitOn_cons_eq_if_modifyHead, hparts] at hpart
    split at hpart
    · rcases List.mem_cons.mp hpart with rfl | hpart
      · cases hc
      · exact (ih hpart hc).imp_left (List.mem_cons_of_mem d)
    · rename_i hd
      rcases List.mem_cons.mp hpart with rfl | hpart
      · rcases List.mem_cons.mp hc with rfl | hc
        · exact ⟨List.mem_cons_self, by simpa using hd⟩
        · exact (ih List.mem_cons_self hc).imp_left (List.mem_cons_of_mem d)
      · exact (ih (List.mem_cons_of_mem _ hpart) hc).imp_left (List.mem_cons_of_mem d)

theorem Message.Writable.forall_isLine {m : Message} (h : m.Writable) :
    ∀ line ∈ m.lines, IsLine line := by
  intro line hline
  rw [Message.lines, List.mem_append] at hline
  rcases hline with hline | hline
  · obtain ⟨t, ht, rfl⟩ := Option.map_eq_some_iff.mp (Option.mem_toList.mp hline)
    obtain ⟨hr, hn⟩ := h.type_line t ht
    exact ⟨nofun, by simp [hr], by simp [hn]⟩
  · obtain ⟨part, hpart, rfl⟩ := List.mem_map.mp hline
    have hr : '\r' ∉ part := fun hc => h.data_line (mem_of_mem_splitOn hpart hc).1
    have hn : '\n' ∉ part := fun hc => (mem_of_mem_splitOn hpart hc).2 rfl
    exact ⟨nofun, by simp [hr], by simp [hn]⟩

/-- A line end of either kind. -/
def IsEnding (ending : List Char) : Prop := ending = ['\n'] ∨ ending = ['\r', '\n']

theorem plainLineEnds_ending {ending : List Char} (h : IsEnding ending) (rest : List Char) :
    plainLineEnds (ending ++ rest) = '\n' :: plainLineEnds rest := by
  rcases h with rfl | rfl
  · exact plainLineEnds_cons nofun
  · exact plainLineEnds_return rest

theorem plainLineEnds_of_not_mem {line : List Char} (h : '\r' ∉ line) (rest : List Char) :
    plainLineEnds (line ++ rest) = line ++ plainLineEnds rest := by
  induction line with
  | nil => rfl
  | cons c line ih =>
    rw [List.mem_cons, not_or] at h
    rw [List.cons_append, plainLineEnds_cons fun hc => absurd hc.symm h.1, ih h.2, List.cons_append]

theorem plainLineEnds_lineText {ending : List Char} (hending : IsEnding ending)
    {lines : List (List Char)} (h : ∀ line ∈ lines, IsLine line) (rest : List Char) :
    plainLineEnds (lineText ending lines ++ rest) =
      lineText ['\n'] lines ++ plainLineEnds rest := by
  induction lines with
  | nil => rfl
  | cons line lines ih =>
    obtain ⟨hline, hlines⟩ := List.forall_mem_cons.mp h
    rw [lineText_cons, plainLineEnds_of_not_mem hline.2.1, plainLineEnds_ending hending, ih hlines,
      lineText_cons]
    rfl

theorem not_infix_line {line rest : List Char} (hline : '\n' ∉ line)
    (hhead : rest.head? ≠ some '\n') (hrest : ¬ ['\n', '\n'] <:+: rest) :
    ¬ ['\n', '\n'] <:+: line ++ '\n' :: rest := by
  induction line with
  | nil =>
    rw [List.nil_append, List.infix_cons_iff, not_or, List.cons_prefix_cons]
    refine ⟨fun hpre => hhead ?_, hrest⟩
    obtain ⟨t, rfl⟩ := hpre.2
    rfl
  | cons c line ih =>
    rw [List.mem_cons, not_or] at hline
    rw [List.cons_append, List.infix_cons_iff, not_or, List.cons_prefix_cons]
    exact ⟨fun hpre => hline.1 hpre.1, ih hline.2⟩

theorem head?_lineText {lines : List (List Char)} (h : ∀ line ∈ lines, IsLine line) :
    (lineText ['\n'] lines).head? ≠ some '\n' := by
  cases lines with
  | nil => nofun
  | cons line lines =>
    obtain ⟨hne, -, hn⟩ := h line List.mem_cons_self
    cases line with
    | nil => exact absurd rfl hne
    | cons c line =>
      intro hc
      exact hn (by rw [← Option.some.inj hc]; exact List.mem_cons_self)

/-- No line of a block is empty. -/
theorem not_infix_lineText {lines : List (List Char)} (h : ∀ line ∈ lines, IsLine line) :
    ¬ ['\n', '\n'] <:+: lineText ['\n'] lines := by
  induction lines with
  | nil => exact fun hinfix => absurd hinfix.length_le (by decide)
  | cons line lines ih =>
    obtain ⟨hline, hlines⟩ := List.forall_mem_cons.mp h
    rw [lineText, List.flatMap_cons, List.append_assoc]
    exact not_infix_line hline.2.2 (head?_lineText hlines) (ih hlines)

theorem splitAt_lineText {lines : List (List Char)} (h : ∀ line ∈ lines, IsLine line)
    (rest : List Char) :
    Text.splitAt '\n' (lineText ['\n'] lines ++ rest) = lines ++ Text.splitAt '\n' rest := by
  induction lines with
  | nil => rfl
  | cons line lines ih =>
    obtain ⟨hline, hlines⟩ := List.forall_mem_cons.mp h
    rw [lineText_cons, List.singleton_append, Text.splitAt_append_cons hline.2.2, ih hlines,
      List.cons_append]

theorem dropReturn_of_not_mem {line : List Char} (h : '\r' ∉ line) :
    Text.dropReturn line = line := by
  rw [Text.dropReturn]
  split
  · rename_i r hr
    refine absurd (List.mem_reverse.mp ?_) h
    rw [hr]
    exact List.mem_cons_self
  · rfl

/-- The lines of a block are found again. -/
theorem lines_lineText {lines : List (List Char)} (h : ∀ line ∈ lines, IsLine line) :
    Text.lines (lineText ['\n'] lines) = lines := by
  have hreturns : lines.map Text.dropReturn = lines :=
    (List.map_congr_left fun line hline => dropReturn_of_not_mem (h line hline).2.1).trans
      (List.map_id' lines)
  have hparts : Text.splitAt '\n' (lineText ['\n'] lines) = lines ++ [[]] := by
    rw [← List.append_nil (lineText _ _), splitAt_lineText h]
    rfl
  rw [Text.lines, hparts]
  simp [hreturns]

/-! ### Fields -/

theorem addLine_comment {line : List Char} (h : IsComment line) (d : Draft) :
    d.addLine line = d := by
  obtain ⟨text, rfl, -⟩ := h
  rfl

theorem addLine_data (d : Draft) (line : List Char) :
    d.addLine ("data: ".toList ++ line) = { d with data := d.data ++ [line] } := rfl

theorem foldl_commented {lines all : List (List Char)} (h : Commented lines all) (d : Draft) :
    all.foldl Draft.addLine d = lines.foldl Draft.addLine d := by
  induction h generalizing d with
  | nil => rfl
  | line _ ih => exact ih _
  | comment hcomment _ ih => rw [List.foldl_cons, addLine_comment hcomment, ih]

theorem addLine_type {t : List Char} (h : ∀ c ∈ t.head?, Text.isBlank c = false) (d : Draft) :
    d.addLine ("event: ".toList ++ t) = { d with type := some t } := by
  have htrim : Text.trimStart (' ' :: t) = t := by
    cases t with
    | nil => rfl
    | cons c t =>
      have hc : Text.isBlank c = false := h c rfl
      simp [Text.trimStart, show Text.isBlank ' ' = true by decide, hc]
  have hadd : d.addLine ("event: ".toList ++ t) =
      { d with type := some (Text.trimStart (' ' :: t)) } := rfl
  rw [hadd, htrim]

theorem foldl_data (parts : List (List Char)) (d : Draft) :
    (parts.map ("data: ".toList ++ ·)).foldl Draft.addLine d =
      { d with data := d.data ++ parts } := by
  induction parts generalizing d with
  | nil => simp
  | cons part parts ih => rw [List.map_cons, List.foldl_cons, addLine_data, ih]; simp

/-- The fields of an event are read back from its lines. -/
theorem foldl_lines {m : Message} (h : m.Writable) : m.lines.foldl Draft.addLine {} =
    { type := m.type.map String.toList, data := m.data.toList.splitOn '\n' } := by
  rw [Message.lines, List.foldl_append, foldl_data]
  cases ht : m.type with
  | none => rfl
  | some t =>
    rw [Option.map_some, Option.toList_some, List.foldl_cons, addLine_type (h.type_head t ht)]
    rfl

theorem Message.Writable.message?_lines {m : Message} (h : m.Writable) :
    (m.lines.foldl Draft.addLine {}).message? = some m := by
  rw [foldl_lines h, Draft.message?]
  split
  · rename_i hdata
    exact absurd hdata (List.splitOn_ne_nil _ _)
  · simp [Option.map_map, Function.comp_def, List.intercalate_splitOn]

/-! ### Blocks -/

/-- Lines wait for the empty line behind them. -/
theorem blocks_of_lines {lines : List (List Char)} (h : ∀ line ∈ lines, IsLine line) :
    blocks (lineText ['\n'] lines) = ([], lineText ['\n'] lines) := by
  refine takeBlocks_of_none (Option.eq_none_iff_forall_ne_some.mpr ?_) _
  rintro ⟨block, rest⟩ hcut
  refine not_infix_lineText h ?_
  rw [(cutBlock?_eq_some_iff.mp hcut).1]
  exact ⟨block, rest, by simp⟩

/-- A block of lines becomes the event with their fields. -/
theorem blocks_lineText {lines : List (List Char)} (hne : lines ≠ [])
    (h : ∀ line ∈ lines, IsLine line) (rest : List Char) :
    blocks (lineText ['\n'] lines ++ '\n' :: rest) =
      ((lines.foldl Draft.addLine {}).message?.toList ++ (blocks rest).1, (blocks rest).2) := by
  obtain ⟨block, hblock⟩ : ∃ block, lineText ['\n'] lines = block ++ ['\n'] :=
    ⟨lineText ['\n'] lines.dropLast ++ lines.getLast hne, by
      nth_rewrite 1 [← List.dropLast_append_getLast hne]
      simp [lineText]⟩
  have hsolid : Solid block := by
    rw [Solid, ← hblock]
    exact not_infix_lineText h
  rw [hblock, List.append_assoc, List.singleton_append, blocks_append hsolid, message?, ← hblock,
    lines_lineText h]

theorem Message.lines_ne_nil (m : Message) : m.lines ≠ [] := by
  simp [Message.lines, List.splitOn_ne_nil]

theorem Commented.ne_nil {lines all : List (List Char)} (h : Commented lines all)
    (hne : lines ≠ []) : all ≠ [] := by
  cases h with
  | nil => exact absurd rfl hne
  | line _ => nofun
  | comment _ _ => nofun

theorem Written.forall_isLine {messages : List Message} {bs : List (List (List Char))}
    (h : Written messages bs) : ∀ block ∈ bs, ∀ line ∈ block, IsLine line := by
  induction h with
  | nil => nofun
  | event hm hblock _ ih =>
    exact List.forall_mem_cons.mpr ⟨hblock.forall_isLine hm.forall_isLine, ih⟩
  | comments _ hblock _ ih =>
    exact List.forall_mem_cons.mpr ⟨hblock.forall_isLine nofun, ih⟩

theorem plainLineEnds_blockText {ending : List Char} (hending : IsEnding ending)
    {bs : List (List (List Char))} (h : ∀ block ∈ bs, ∀ line ∈ block, IsLine line)
    (rest : List Char) :
    plainLineEnds (blockText ending bs ++ rest) = blockText ['\n'] bs ++ plainLineEnds rest := by
  induction bs with
  | nil => rfl
  | cons block bs ih =>
    obtain ⟨hblock, hbs⟩ := List.forall_mem_cons.mp h
    rw [blockText_cons, plainLineEnds_lineText hending hblock, plainLineEnds_ending hending, ih hbs,
      blockText_cons]
    rfl

/-- The events of a written text are those that were written, and only what comes behind the last
block is left. -/
theorem blocks_written {messages : List Message} {bs : List (List (List Char))}
    (h : Written messages bs) (rest : List Char) :
    blocks (blockText ['\n'] bs ++ rest) = (messages ++ (blocks rest).1, (blocks rest).2) := by
  induction h with
  | nil => rfl
  | @event m block messages bs hm hblock _ ih =>
    have hlines := hblock.forall_isLine hm.forall_isLine
    rw [blockText_cons, List.singleton_append,
      blocks_lineText (hblock.ne_nil m.lines_ne_nil) hlines,
      foldl_commented hblock, hm.message?_lines, ih]
    rfl
  | @comments block messages bs hne hblock _ ih =>
    rw [blockText_cons, List.singleton_append, blocks_lineText hne (hblock.forall_isLine nofun),
      foldl_commented hblock, ih]
    rfl

/-- Events that are written, with line ends of one kind and comments anywhere, are read back. -/
theorem feed_written {messages : List Message} {bs : List (List (List Char))}
    {tail : List (List Char)} {ending : List Char} (hending : IsEnding ending)
    (h : Written messages bs) (htail : ∀ line ∈ tail, IsComment line) :
    (Parser.feed {} (blockText ending bs ++ lineText ending tail)).1 = messages := by
  have hlines : ∀ line ∈ tail, IsLine line := fun line hline => (htail line hline).isLine
  have hplain : plainLineEnds (lineText ending tail) = lineText ['\n'] tail := by
    simpa using plainLineEnds_lineText hending hlines []
  rw [feed_eq, List.nil_append, plainLineEnds_blockText hending h.forall_isLine, hplain,
    blocks_written h, blocks_of_lines hlines]
  exact List.append_nil messages

/-- Blocks of an event without a type or data, of a comment, and of an event with both. -/
def annotatedBlocks : List (List (List Char)) :=
  [[": hello".toList, "data: ".toList], [":".toList],
    ["event: delta".toList, "data: a".toList, ": more".toList, "data: ".toList, "data:   b".toList]]

theorem written_annotatedBlocks :
    Written [⟨none, ""⟩, ⟨some "delta", "a\n\n  b"⟩] annotatedBlocks := by
  have hcomment (text : List Char) (h : '\r' ∉ text ∧ '\n' ∉ text) : IsComment (':' :: text) :=
    ⟨text, rfl, h⟩
  refine .event ⟨nofun, nofun, by decide⟩ ?_
    (.comments nofun ?_ (.event ⟨?_, ?_, by decide⟩ ?_ .nil))
  · exact .comment (hcomment _ (by decide)) (.line .nil)
  · exact .comment (hcomment _ (by decide)) .nil
  · rintro t ⟨⟩
    decide
  · rintro t ⟨⟩ c hc
    obtain rfl : 'd' = c := Option.some.inj hc
    decide
  · exact .line (.line (.comment (hcomment _ (by decide)) (.line (.line .nil))))

theorem feed_written_of_annotated :
    IsEnding ['\r', '\n'] ∧
    Written [⟨none, ""⟩, ⟨some "delta", "a\n\n  b"⟩] annotatedBlocks ∧
    (∀ line ∈ [": bye".toList], IsComment line) ∧
    blockText ['\r', '\n'] annotatedBlocks ++ lineText ['\r', '\n'] [": bye".toList] =
      (": hello\r\ndata: \r\n\r\n:\r\n\r\n" ++
        "event: delta\r\ndata: a\r\n: more\r\ndata: \r\ndata:   b\r\n\r\n: bye\r\n").toList ∧
    (Parser.feed {} (blockText ['\r', '\n'] annotatedBlocks ++
      lineText ['\r', '\n'] [": bye".toList])).1 =
        [⟨none, ""⟩, ⟨some "delta", "a\n\n  b"⟩] := by
  have htail : ∀ line ∈ [": bye".toList], IsComment line :=
    List.forall_mem_singleton.mpr ⟨" bye".toList, rfl, by decide⟩
  exact ⟨.inr rfl, written_annotatedBlocks, htail, by decide,
    feed_written (.inr rfl) written_annotatedBlocks htail⟩

end Workflow.EventStream
