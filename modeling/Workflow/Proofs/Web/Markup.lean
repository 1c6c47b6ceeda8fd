import Mathlib.Data.List.Infix
import Workflow.Proofs.Text.Search
import Workflow.Web.Markup

/-! The plain text of pages that were made of plain text. Text that was escaped is got back as it
was, whatever it looks like and whatever tags stand around it, but for empty lines and white space
at its ends: no part of it is taken for a tag, and no entity in it is read twice. -/
namespace Workflow.Web.Markup

/-! ### Tidy text -/

/-- The same text with two line feeds in place of each run of three or more. -/
inductive Collapses : List Char → List Char → Prop where
  | nil : Collapses [] []
  | char {c : Char} {s u : List Char} (hc : c ≠ '\n') (h : Collapses s u) :
    Collapses (c :: s) (c :: u)
  | run {n : ℕ} {s u : List Char} (hn : 0 < n) (hs : '\n' ∉ s.head?) (h : Collapses s u) :
    Collapses (List.replicate n '\n' ++ s) (List.replicate (if 3 ≤ n then 2 else n) '\n' ++ u)

/-- The same text with two line feeds in place of each run of three or more, and without white space
at its ends. -/
def Tidies (s v : List Char) : Prop := ∃ u, Collapses s u ∧ Text.Trims u v

theorem takeWhile_run {n : ℕ} {s : List Char} (hs : '\n' ∉ s.head?) :
    (List.replicate n '\n' ++ s).takeWhile (· == '\n') = List.replicate n '\n' := by
  rw [List.takeWhile_append_of_pos fun c hc => beq_iff_eq.mpr (List.eq_of_mem_replicate hc)]
  cases s with
  | nil => simp
  | cons c s =>
    have hc : c ≠ '\n' := fun h => hs (by simp [h])
    simp [hc]

theorem emptyLines_run {n : ℕ} {s : List Char} (hs : '\n' ∉ s.head?) :
    emptyLines (List.replicate n '\n' ++ s) = if 3 ≤ n then some (n, ['\n', '\n']) else none := by
  rw [emptyLines, takeWhile_run hs, List.length_replicate]

theorem substitute_run {n : ℕ} {s : List Char} (hs : '\n' ∉ s.head?) :
    Text.substitute emptyLines (List.replicate n '\n' ++ s) =
      List.replicate (if 3 ≤ n then 2 else n) '\n' ++ Text.substitute emptyLines s := by
  by_cases hn : 3 ≤ n
  · have hlines := emptyLines_run (n := n) hs
    rw [if_pos hn] at hlines ⊢
    have hlen : (List.replicate n '\n').length = n := List.length_replicate
    exact Text.substitute_append_of_some (by simp; omega) (hlen.symm ▸ hlines)
  · rw [if_neg hn]
    induction n with
    | zero => rfl
    | succ n ih =>
      have hlines := emptyLines_run (n := n + 1) hs
      rw [if_neg hn] at hlines
      rw [List.replicate_succ, List.cons_append] at hlines ⊢
      rw [Text.substitute_cons_of_none hlines, ih (by omega), List.cons_append]

theorem Collapses.substitute_eq {s u : List Char} (h : Collapses s u) :
    Text.substitute emptyLines s = u := by
  induction h with
  | nil => rfl
  | @char c s u hc h ih =>
    have hnone : emptyLines (c :: s) = none := by
      simpa using emptyLines_run (n := 0) (s := c :: s) (by simpa using hc)
    rw [Text.substitute_cons_of_none hnone, ih]
  | run hn hs h ih => rw [substitute_run hs, ih]

theorem exists_run (s : List Char) :
    ∃ n rest, s = List.replicate n '\n' ++ rest ∧ '\n' ∉ rest.head? := by
  induction s with
  | nil => exact ⟨0, [], rfl, by simp⟩
  | cons c s ih =>
    by_cases hc : c = '\n'
    · obtain ⟨n, rest, rfl, hrest⟩ := ih
      exact ⟨n + 1, rest, by rw [hc, List.replicate_succ, List.cons_append], hrest⟩
    · exact ⟨0, c :: s, rfl, by simpa using hc⟩

theorem exists_collapses (s : List Char) : ∃ u, Collapses s u := by
  induction hlen : s.length using Nat.strong_induction_on generalizing s with
  | _ len ih =>
    obtain ⟨n, rest, rfl, hrest⟩ := exists_run s
    rcases Nat.eq_zero_or_pos n with rfl | hn
    · cases rest with
      | nil => exact ⟨[], .nil⟩
      | cons c rest =>
        obtain ⟨u, hu⟩ := ih rest.length (by simp [← hlen]) rest rfl
        exact ⟨c :: u, .char (by simpa using hrest) hu⟩
    · obtain ⟨u, hu⟩ := ih rest.length (by simp [← hlen]; omega) rest rfl
      exact ⟨_, .run hn hrest hu⟩

theorem collapses_iff {s u : List Char} : Collapses s u ↔ Text.substitute emptyLines s = u := by
  constructor
  · exact Collapses.substitute_eq
  · rintro rfl
    obtain ⟨u, hu⟩ := exists_collapses s
    rwa [hu.substitute_eq]

theorem tidies_iff {s v : List Char} : Tidies s v ↔ tidy s = v := by
  unfold Tidies tidy
  simp only [collapses_iff, Text.trims_iff, exists_eq_left']

/-! ### Reading entities -/

/-- A name between the mark that begins it and the one that ends it. -/
def IsEntity (s : List Char) : Prop := ∃ name, s = '&' :: name ++ [';'] ∧ '&' ∉ name ∧ ';' ∉ name

/-- What may stand for a character in markup. -/
def Stands (s : List Char) : Prop := (∃ c, c ≠ '&' ∧ s = [c]) ∨ IsEntity s

/-- A text does not begin with an entity unless it was begun with it. -/
theorem IsEntity.eq_of_front {s part rest : List Char} (hs : IsEntity s) (hpart : IsEntity part)
    (h : s <+: part ++ rest) : s = part := by
  obtain ⟨name, rfl, -, hname⟩ := hs
  obtain ⟨other, rfl, -, hother⟩ := hpart
  obtain ⟨more, hmore⟩ := h
  have hnames : name ++ ';' :: more = other ++ ';' :: rest := by simpa using hmore
  have heq : name = other := by
    rw [← Text.takeWhile_append_cons hname more, hnames, Text.takeWhile_append_cons hother]
  rw [heq]

theorem IsEntity.front_cons {s rest : List Char} {c : Char} (hs : IsEntity s)
    (h : s <+: c :: rest) : c = '&' := by
  obtain ⟨name, rfl, -⟩ := hs
  exact (List.cons_prefix_cons.mp h).1.symm

/-- Where no entity begins, none is replaced. -/
theorem IsEntity.exactly_cons {name : List Char} (h : IsEntity name) (value : List Char) {c : Char}
    (hc : c ≠ '&') (rest : List Char) : Text.exactly name value (c :: rest) = none :=
  if_neg fun hfront => hc (h.front_cons (List.isPrefixOf_iff_prefix.mp hfront))

/-- Of all that may stand for a character, replacing an entity touches only the entity itself. -/
theorem IsEntity.replace_append {name : List Char} (h : IsEntity name) (value : List Char)
    {part : List Char} (hpart : Stands part) (rest : List Char) :
    Text.replace name value (part ++ rest) =
      (if part = name then value else part) ++ Text.replace name value rest := by
  simp only [Text.replace_eq_substitute]
  rcases hpart with ⟨c, hc, rfl⟩ | hpart
  · have hne : [c] ≠ name := by
      rintro rfl
      exact hc (h.front_cons (List.prefix_refl _))
    rw [if_neg hne]
    exact Text.substitute_cons_of_none (h.exactly_cons value hc rest)
  · by_cases heq : part = name
    · subst heq
      have hfound : Text.exactly part value (part ++ rest) = some (part.length, value) :=
        if_pos (List.isPrefixOf_iff_prefix.mpr (List.prefix_append part rest))
      obtain ⟨name, rfl, -⟩ := h
      rw [if_pos rfl, Text.substitute_append_of_some (by simp) hfound]
    · have hnone : Text.exactly name value (part ++ rest) = none :=
        if_neg fun hfront => heq (h.eq_of_front hpart (List.isPrefixOf_iff_prefix.mp hfront)).symm
      obtain ⟨other, rfl, hother, -⟩ := hpart
      have hend : ∀ c ∈ other ++ [';'], ∀ r, Text.exactly name value (c :: r) = none := by
        intro c hc
        refine h.exactly_cons value ?_
        rintro rfl
        rcases List.mem_append.mp hc with hc | hc
        · exact hother hc
        · exact absurd (List.mem_singleton.mp hc) (by decide)
      rw [if_neg heq]
      rw [List.cons_append, List.cons_append] at hnone ⊢
      rw [Text.substitute_cons_of_none hnone, Text.substitute_append_of_none hend, List.cons_append]

theorem IsEntity.replace_flatMap {name : List Char} (h : IsEntity name) (value : List Char)
    {f : Char → List Char} (hf : ∀ c, Stands (f c)) (s : List Char) :
    Text.replace name value (s.flatMap f) =
      s.flatMap fun c => if f c = name then value else f c := by
  induction s with
  | nil => rfl
  | cons c s ih =>
    rw [List.flatMap_cons, h.replace_append value (hf c), ih, List.flatMap_cons]

/-- What stands for a character after some entities have been replaced. -/
def readPart (table : List (List Char × List Char)) (part : List Char) : List Char :=
  table.foldl (fun part entity => if part = entity.1 then entity.2 else part) part

theorem Stands.readPart {table : List (List Char × List Char)}
    (htable : ∀ entity ∈ table, Stands entity.2) {part : List Char} (h : Stands part) :
    Stands (Markup.readPart table part) := by
  induction table generalizing part with
  | nil => exact h
  | cons entity table ih =>
    obtain ⟨hentity, htable⟩ := List.forall_mem_cons.mp htable
    have hpart : Stands (if part = entity.1 then entity.2 else part) := by
      split
      · exact hentity
      · exact h
    exact ih htable hpart

/-- Entities can be replaced one after the other if none of their values begins another one. -/
theorem foldl_replace {table : List (List Char × List Char)}
    (htable : ∀ entity ∈ table, IsEntity entity.1 ∧ Stands entity.2) {f : Char → List Char}
    (hf : ∀ c, Stands (f c)) (s : List Char) :
    table.foldl (fun s entity => Text.replace entity.1 entity.2 s) (s.flatMap f) =
      s.flatMap fun c => readPart table (f c) := by
  induction table generalizing f with
  | nil => rfl
  | cons entity table ih =>
    obtain ⟨⟨hname, hvalue⟩, htable⟩ := List.forall_mem_cons.mp htable
    rw [List.foldl_cons, hname.replace_flatMap entity.2 hf]
    refine ih htable fun c => ?_
    split
    · exact hvalue
    · exact hf c

theorem stands_escapeChar (c : Char) : Stands (escapeChar c) := by
  unfold escapeChar
  split
  · exact .inr ⟨"amp".toList, by decide⟩
  · exact .inr ⟨"lt".toList, by decide⟩
  · exact .inr ⟨"gt".toList, by decide⟩
  · exact .inr ⟨"quot".toList, by decide⟩
  · exact .inr ⟨"#39".toList, by decide⟩
  · rename_i hmark _ _ _ _
    exact .inl ⟨c, hmark, rfl⟩

/-- The entities that are replaced before that of the mark which entities begin with. -/
def plainNames : List (String × Char) :=
  [("lt", '<'), ("gt", '>'), ("quot", '"'), ("apos", '\''), ("#39", '\''), ("nbsp", ' ')]

def plainEntities : List (List Char × List Char) :=
  plainNames.map fun entity => ('&' :: entity.1.toList ++ [';'], [entity.2])

theorem entities_eq : entities = plainEntities ++ [("&amp;".toList, ['&'])] := by decide

theorem plainEntities_stand :
    ∀ entity ∈ plainEntities, IsEntity entity.1 ∧ Stands entity.2 := by
  have hplain : ∀ entity ∈ plainNames,
      '&' ∉ entity.1.toList ∧ ';' ∉ entity.1.toList ∧ entity.2 ≠ '&' := by decide
  intro entity hentity
  obtain ⟨⟨name, c⟩, hmem, rfl⟩ := List.mem_map.mp hentity
  obtain ⟨hmark, hend, hc⟩ := hplain _ hmem
  exact ⟨⟨name.toList, rfl, hmark, hend⟩, .inl ⟨c, hc, rfl⟩⟩

theorem readPart_escapeChar (c : Char) : readPart entities (escapeChar c) = [c] := by
  unfold escapeChar
  split
  · decide
  · decide
  · decide
  · decide
  · decide
  · simp [readPart, entities]

theorem readPart_append (table : List (List Char × List Char)) (name value part : List Char) :
    readPart (table ++ [(name, value)]) part =
      if readPart table part = name then value else readPart table part := by
  rw [readPart, List.foldl_append]
  rfl

/-- Escaped text is read back as it was. -/
theorem readEntities_escape (s : List Char) : readEntities (escape s) = s := by
  have hread : readEntities (escape s) =
      entities.foldl (fun s entity => Text.replace entity.1 entity.2 s) (s.flatMap escapeChar) :=
    rfl
  have hchars : ∀ c, readPart entities (escapeChar c) = [c] := readPart_escapeChar
  have hmark : IsEntity "&amp;".toList := ⟨"amp".toList, by decide⟩
  have hplain : ∀ c, Stands (readPart plainEntities (escapeChar c)) := fun c =>
    (stands_escapeChar c).readPart fun entity h => (plainEntities_stand entity h).2
  -- The value of the last entity is the mark itself, so that it has to be replaced last.
  rw [entities_eq] at hread hchars
  calc readEntities (escape s)
      = Text.replace "&amp;".toList ['&']
          (s.flatMap fun c => readPart plainEntities (escapeChar c)) := by
        rw [hread, List.foldl_append, foldl_replace plainEntities_stand stands_escapeChar]
        rfl
    _ = s.flatMap (fun c => [c]) := by
        rw [hmark.replace_flatMap ['&'] hplain]
        refine List.flatMap_congr fun c _ => ?_
        rw [← hchars c, readPart_append]
    _ = s := List.flatMap_singleton' s

/-! ### Pages -/

/-- A tag that begins neither a script nor a style. -/
structure Tag where
  body : List Char
  ne_nil : body ≠ []
  no_opening : '<' ∉ body
  no_closing : '>' ∉ body
  no_script : dropWord? "script".toList body = none
  no_style : dropWord? "style".toList body = none

/-- A part of a page: text, which is escaped, or a tag. -/
inductive Piece where
  | text (s : List Char)
  | tag (t : Tag)

def Piece.markup : Piece → List Char
  | text s => escape s
  | tag t => '<' :: t.body ++ ['>']

def Piece.plain : Piece → List Char
  | text s => s
  | tag _ => []

/-- Text with tags anywhere in it. -/
abbrev Page := List Piece

/-- What a page is written as. -/
def Page.markup (page : Page) : List Char := page.flatMap Piece.markup

/-- What a page says. -/
def Page.plain (page : Page) : List Char := page.flatMap Piece.plain

theorem isLetter_opening {c : Char} (h : isLetter '<' c = true) : c = '<' := by
  have hlower : c.toLower = '<' := by simpa [isLetter] using h
  unfold Char.toLower at hlower
  split at hlower
  · rename_i hupper
    have hcode : c.val + ('a'.val - 'A'.val) = '<'.val := congrArg Char.val hlower
    grind
  · exact hlower

theorem opening_not_mem_escape (s : List Char) : '<' ∉ escape s := by
  intro h
  obtain ⟨c, -, hc⟩ := List.mem_flatMap.mp h
  revert hc
  unfold escapeChar
  split
  · decide
  · decide
  · decide
  · decide
  · decide
  · rename_i hopening _ _ _
    exact fun hc => hopening (List.mem_singleton.mp hc).symm

theorem element_cons (name : List Char) {c : Char} (hc : c ≠ '<') (rest : List Char) :
    element name (c :: rest) = none := by
  have hopening : isLetter '<' c ≠ true := fun h => hc (isLetter_opening h)
  unfold element
  rw [dropWord?, if_neg hopening]
  rfl

/-- The end of a tag does not go on with a word. -/
theorem dropWord?_append_closing {word body : List Char} (h : dropWord? word body = none)
    (hword : word.any (isLetter · '>') = false) (rest : List Char) :
    dropWord? word (body ++ '>' :: rest) = none := by
  induction word generalizing body with
  | nil => cases body <;> cases h
  | cons w word ih =>
    rw [List.any_cons, Bool.or_eq_false_iff] at hword
    cases body with
    | nil => rw [List.nil_append, dropWord?, hword.1]; rfl
    | cons c body =>
      rw [List.cons_append, dropWord?]
      rw [dropWord?] at h
      split
      · rename_i hc
        rw [if_pos hc] at h
        exact ih h hword.2
      · rfl

theorem element_tag {name : List Char} (hname : name.any (isLetter · '>') = false) {t : Tag}
    (ht : dropWord? name t.body = none) (rest : List Char) :
    element name ('<' :: (t.body ++ '>' :: rest)) = none := by
  have hopening : isLetter '<' '<' = true := by decide
  unfold element
  rw [dropWord?, if_pos hopening, dropWord?_append_closing ht hname]
  rfl

theorem Tag.opening_not_mem (t : Tag) : '<' ∉ t.body ++ ['>'] := by
  have hclosing : ('<' : Char) ≠ '>' := by decide
  simp [t.no_opening, hclosing]

theorem Page.markup_text (s : List Char) (page : Page) :
    markup (.text s :: page) = escape s ++ markup page := rfl

theorem Page.markup_tag (t : Tag) (page : Page) :
    markup (.tag t :: page) = '<' :: (t.body ++ ['>'] ++ markup page) := rfl

/-- Elements of a name are left where they are in a page whose tags do not begin one. -/
theorem substitute_element {name : List Char} (hname : name.any (isLetter · '>') = false)
    {page : Page} (hpage : ∀ t, .tag t ∈ page → dropWord? name t.body = none) :
    Text.substitute (element name) page.markup = page.markup := by
  induction page with
  | nil => rfl
  | cons piece page ih =>
    have hrest := ih fun t ht => hpage t (List.mem_cons_of_mem _ ht)
    cases piece with
    | text s =>
      have hs : ∀ c ∈ escape s, ∀ r, element name (c :: r) = none :=
        fun c hc => element_cons name (ne_of_mem_of_not_mem hc (opening_not_mem_escape s))
      rw [Page.markup_text, Text.substitute_append_of_none hs, hrest]
    | tag t =>
      have ht := element_tag hname (hpage t List.mem_cons_self) (Page.markup page)
      have hbody : ∀ c ∈ t.body ++ ['>'], ∀ r, element name (c :: r) = none :=
        fun c hc => element_cons name (ne_of_mem_of_not_mem hc t.opening_not_mem)
      rw [List.append_cons] at ht
      rw [Page.markup_tag, Text.substitute_cons_of_none ht, Text.substitute_append_of_none hbody,
        hrest]

theorem tag_cons {c : Char} (hc : c ≠ '<') (rest : List Char) : tag (c :: rest) = none := by
  unfold tag
  split
  · rename_i heq
    exact absurd (List.cons.inj heq).1 hc
  · rfl

theorem tag_tag (t : Tag) (rest : List Char) :
    tag ('<' :: (t.body ++ '>' :: rest)) = some (t.body.length + 2, []) := by
  rw [tag, Text.takeWhile_append_cons t.no_closing]
  simp [t.ne_nil]

/-- All that is left of a page without its tags is what it says. -/
theorem substitute_tag (page : Page) : Text.substitute tag page.markup = escape page.plain := by
  induction page with
  | nil => rfl
  | cons piece page ih =>
    cases piece with
    | text s =>
      have hs : ∀ c ∈ escape s, ∀ r, tag (c :: r) = none :=
        fun c hc => tag_cons (ne_of_mem_of_not_mem hc (opening_not_mem_escape s))
      rw [Page.markup_text, Text.substitute_append_of_none hs, ih]
      exact List.flatMap_append.symm
    | tag t =>
      have ht : tag ('<' :: t.body ++ ['>'] ++ Page.markup page) =
          some (('<' :: t.body ++ ['>']).length, []) := by
        simpa using tag_tag t (Page.markup page)
      exact (Text.substitute_append_of_some (by simp) ht).trans ih

/-- Of a page with tags of these kinds, what it says is left. -/
theorem plainText_markup (page : Page) : plainText page.markup = tidy page.plain := by
  have hscript : ∀ t, Piece.tag t ∈ page → dropWord? "script".toList t.body = none :=
    fun t _ => t.no_script
  have hstyle : ∀ t, Piece.tag t ∈ page → dropWord? "style".toList t.body = none :=
    fun t _ => t.no_style
  unfold plainText
  simp only [substitute_element (by decide) hscript, substitute_element (by decide) hstyle,
    substitute_tag, readEntities_escape]

/-- Plain text is got back from its markup but for empty lines and white space at its ends, and so
is what a page says from a page in which it stands among tags. -/
theorem plainText_escape (s : List Char) (page : Page) :
    (∀ v, plainText (escape s) = v ↔ Tidies s v) ∧
      ∀ v, plainText page.markup = v ↔ Tidies page.plain v := by
  have hpage : ∀ page : Page, ∀ v, plainText page.markup = v ↔ Tidies page.plain v :=
    fun page v => by rw [plainText_markup, tidies_iff]
  have hplain : Page.plain [.text s] = s := List.append_nil s
  have hmarkup : Page.markup [.text s] = escape s := List.append_nil _
  have htext := hpage [.text s]
  rw [hplain, hmarkup] at htext
  exact ⟨htext, hpage page⟩

/-- The tag that begins a paragraph. -/
def paragraph : Tag := ⟨"p".toList, by decide, by decide, by decide, by decide, by decide⟩

example : plainText (Page.markup [.tag paragraph, .text " &lt;b>\n\n\n".toList, .tag paragraph,
    .text "\n'c' && <d>\n".toList]) = "&lt;b>\n\n'c' && <d>".toList := by decide

end Workflow.Web.Markup
