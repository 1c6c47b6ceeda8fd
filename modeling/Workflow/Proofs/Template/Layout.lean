import Mathlib.Data.List.Basic
import Mathlib.Data.List.Infix
import Workflow.Proofs.Template.Placeholder

/-! How a template is put together: literals that hold no placeholder, with placeholders between
them. Every text is put together in exactly one way, and rendering fills in what the placeholders
lead to and leaves the literals as they are. -/
namespace Workflow.Template

/-- A placeholder as it is written. -/
structure Placeholder where
  before : List Char
  name : List Char
  after : List Char
  before_blank : ∀ c ∈ before, Text.isBlank c = true
  after_blank : ∀ c ∈ after, Text.isBlank c = true
  isName : IsName name

namespace Placeholder

/-- What stands behind the opening braces. -/
def inner (p : Placeholder) : List Char := p.before ++ p.name ++ p.after ++ ['\x7d', '\x7d']

def text (p : Placeholder) : List Char := '\x7b' :: '\x7b' :: p.inner

/-- The path to the value that takes the place of the placeholder. -/
def path (p : Placeholder) : String := String.ofList p.name

theorem inner_ne_nil (p : Placeholder) : p.inner ≠ [] := by
  rw [inner]
  exact List.append_ne_nil_of_right_ne_nil _ (List.cons_ne_nil _ _)

/-- There are no other opening braces in a placeholder than the first two. -/
theorem brace_not_mem_inner (p : Placeholder) : '\x7b' ∉ p.inner := by
  simp only [inner, List.mem_append, not_or]
  refine ⟨⟨⟨fun h => ?_, fun h => ?_⟩, fun h => ?_⟩, by decide⟩
  · exact absurd (p.before_blank _ h) (by decide)
  · exact absurd (p.isName.2 _ h) (by decide)
  · exact absurd (p.after_blank _ h) (by decide)

theorem placeholder?_text_append (p : Placeholder) (rest : List Char) :
    placeholder? (p.text ++ rest) = some (p.name, rest) :=
  placeholder?_eq_some_iff.mpr
    ⟨p.before, p.after, by simp [text, inner], p.before_blank, p.after_blank, p.isName⟩

/-- The text of a placeholder tells where it ends, and where its name begins and ends. -/
theorem text_append_inj {p q : Placeholder} {rest rest' : List Char}
    (h : p.text ++ rest = q.text ++ rest') : p = q ∧ rest = rest' := by
  have hfound := p.placeholder?_text_append rest
  rw [h, q.placeholder?_text_append] at hfound
  obtain ⟨hname, rfl⟩ := Prod.mk.inj (Option.some.inj hfound)
  refine ⟨?_, rfl⟩
  obtain ⟨before, name, after, hbefore, hafter, ⟨⟨c, s, hc, _⟩, hchars⟩⟩ := p
  obtain ⟨before', name', after', hbefore', hafter', _⟩ := q
  obtain rfl : name' = name := hname
  subst hc
  have hblank : Text.isBlank c = false := isBlank_of_isNameChar (hchars c List.mem_cons_self)
  have hinner : before ++ c :: (s ++ after ++ ['\x7d', '\x7d']) =
      before' ++ c :: (s ++ after' ++ ['\x7d', '\x7d']) := by
    simpa [text, inner] using List.append_cancel_right h
  obtain rfl : before = before' := by
    rw [← (Text.span_append hbefore hblank).1, hinner, (Text.span_append hbefore' hblank).1]
  obtain rfl : after = after' := by simpa using hinner
  rfl

end Placeholder

theorem exists_placeholder {s name rest : List Char} (h : placeholder? s = some (name, rest)) :
    ∃ p : Placeholder, p.name = name ∧ s = p.text ++ rest := by
  obtain ⟨before, after, rfl, hbefore, hafter, hname⟩ := placeholder?_eq_some_iff.mp h
  exact ⟨⟨before, name, after, hbefore, hafter, hname⟩, rfl,
    by simp [Placeholder.text, Placeholder.inner]⟩

/-! ### Literals -/

/-- No placeholder stands in the text. -/
def Free (s : List Char) : Prop := ∀ p : Placeholder, ¬ p.text <:+: s

theorem free_nil : Free [] := fun _ h => List.cons_ne_nil _ _ (List.infix_nil.mp h)

theorem Free.of_cons {c : Char} {s : List Char} (h : Free (c :: s)) : Free s :=
  fun p hp => h p (List.infix_cons hp)

/-- Placeholders with the literals behind them. -/
abbrev Parts := List (Placeholder × List Char)

namespace Parts

def text (parts : Parts) : List Char := parts.flatMap fun part => part.1.text ++ part.2

def pieces (parts : Parts) : List Piece :=
  parts.flatMap fun part => .hole part.1.name :: part.2.map .char

/-- All literals are free of placeholders. -/
def AllFree (parts : Parts) : Prop := ∀ part ∈ parts, Free part.2

theorem text_cons (p : Placeholder) (lit : List Char) (parts : Parts) :
    text ((p, lit) :: parts) = p.text ++ (lit ++ parts.text) := by
  rw [text, List.flatMap_cons, ← text, List.append_assoc]

theorem text_ne_nil {p : Placeholder} {lit : List Char} {parts : Parts} :
    text ((p, lit) :: parts) ≠ [] := List.cons_ne_nil _ _

end Parts

/-- A placeholder that begins in a literal would have to end in it: the braces that open the next
one cannot stand inside. -/
theorem placeholder?_of_free {c : Char} {s : List Char} (h : Free (c :: s)) (parts : Parts) :
    placeholder? (c :: s ++ parts.text) = none := by
  cases hfound : placeholder? (c :: s ++ parts.text) with
  | none => rfl
  | some found =>
    obtain ⟨q, -, hq⟩ := exists_placeholder hfound
    rcases List.append_eq_append_iff.mp hq with ⟨inside, htext, hrest⟩ | ⟨behind, hs, -⟩
    · cases inside with
      | nil => exact absurd ⟨[], [], by rw [htext]; simp⟩ (h q)
      | cons d inside =>
        obtain ⟨p, lit, parts, rfl⟩ : ∃ p lit rest, parts = (p, lit) :: rest := by
          cases parts with
          | nil => cases hrest
          | cons part rest => exact ⟨part.1, part.2, rest, rfl⟩
        rw [Parts.text_cons, Placeholder.text] at hrest
        obtain ⟨rfl, hrest⟩ := List.cons.inj hrest
        rw [Placeholder.text] at htext
        obtain ⟨-, htext⟩ := List.cons.inj htext
        cases s with
        | nil =>
          obtain ⟨-, rfl⟩ := List.cons.inj htext
          obtain ⟨e, inner, hinner⟩ := List.exists_cons_of_ne_nil q.inner_ne_nil
          rw [hinner] at hrest
          have he : '\x7b' = e := (List.cons.inj (List.cons.inj hrest).2).1
          exact absurd (hinner ▸ he ▸ List.mem_cons_self) q.brace_not_mem_inner
        | cons e s =>
          obtain ⟨-, hinner⟩ := List.cons.inj htext
          exact absurd (hinner ▸ by simp) q.brace_not_mem_inner
    · exact absurd ⟨[], behind, by rw [hs]; simp⟩ (h q)

/-! ### Layouts -/

/-- A text put together: a literal, and placeholders with the literals behind them. -/
structure Layout where
  head : List Char
  parts : Parts
  head_free : Free head
  parts_free : parts.AllFree

def Layout.text (l : Layout) : List Char := l.head ++ l.parts.text

theorem exists_parts (s : List Char) :
    ∃ head parts, Free head ∧ Parts.AllFree parts ∧ head ++ Parts.text parts = s := by
  induction hn : s.length using Nat.strong_induction_on generalizing s with
  | _ n ih =>
    cases s with
    | nil => exact ⟨[], [], free_nil, List.forall_mem_nil _, rfl⟩
    | cons c s =>
      cases hfound : placeholder? (c :: s) with
      | some found =>
        obtain ⟨p, -, hs⟩ := exists_placeholder hfound
        have hlen : found.2.length < n := by
          rw [← hn, hs, Placeholder.text]
          simp only [List.length_append, List.length_cons]
          omega
        obtain ⟨head, parts, hhead, hparts, hrest⟩ := ih _ hlen found.2 rfl
        refine ⟨[], (p, head) :: parts, free_nil, List.forall_mem_cons.mpr ⟨hhead, hparts⟩, ?_⟩
        rw [List.nil_append, Parts.text_cons, hrest, hs]
      | none =>
        obtain ⟨head, parts, hhead, hparts, rfl⟩ := ih s.length (by simp [← hn]) s rfl
        refine ⟨c :: head, parts, fun p hp => ?_, hparts, rfl⟩
        rcases List.infix_cons_iff.mp hp with ⟨behind, hp⟩ | hp
        · rw [← List.cons_append, ← hp, List.append_assoc, p.placeholder?_text_append] at hfound
          cases hfound
        · exact hhead p hp

/-- A text that goes on with a placeholder does not go on with a literal. -/
theorem text_cons_ne {c : Char} {s : List Char} (h : Free (c :: s)) {p : Placeholder}
    {lit : List Char} {parts parts' : Parts} :
    Parts.text ((p, lit) :: parts) ≠ c :: s ++ parts'.text := by
  intro heq
  have hnone := placeholder?_of_free h parts'
  rw [← heq, Parts.text_cons, p.placeholder?_text_append] at hnone
  cases hnone

theorem parts_unique {head head' : List Char} {parts parts' : Parts} (hhead : Free head)
    (hhead' : Free head') (hparts : parts.AllFree) (hparts' : parts'.AllFree)
    (h : head ++ parts.text = head' ++ parts'.text) : head = head' ∧ parts = parts' := by
  induction hn : (head ++ parts.text).length using Nat.strong_induction_on
    generalizing head head' parts parts' with
  | _ n ih =>
    cases head with
    | nil =>
      cases head' with
      | nil =>
        refine ⟨rfl, ?_⟩
        cases parts with
        | nil =>
          cases parts' with
          | nil => rfl
          | cons part parts' => exact absurd h.symm Parts.text_ne_nil
        | cons part parts =>
          cases parts' with
          | nil => exact absurd h Parts.text_ne_nil
          | cons part' parts' =>
            obtain ⟨p, lit⟩ := part
            obtain ⟨q, lit'⟩ := part'
            obtain ⟨hlit, hrest⟩ := List.forall_mem_cons.mp hparts
            obtain ⟨hlit', hrest'⟩ := List.forall_mem_cons.mp hparts'
            rw [List.nil_append, Parts.text_cons] at h hn
            rw [List.nil_append, Parts.text_cons] at h
            obtain ⟨rfl, heq⟩ := Placeholder.text_append_inj h
            have hlen : (lit ++ Parts.text parts).length < n := by
              simp only [← hn, List.length_append, Placeholder.text, List.length_cons]
              omega
            obtain ⟨rfl, rfl⟩ := ih _ hlen hlit hlit' hrest hrest' heq rfl
            rfl
      | cons c head' =>
        cases parts with
        | nil => cases h
        | cons part parts => exact absurd h (text_cons_ne hhead')
    | cons c head =>
      cases head' with
      | nil =>
        cases parts' with
        | nil => cases h
        | cons part parts' => exact absurd h.symm (text_cons_ne hhead)
      | cons d head' =>
        rw [List.cons_append, List.cons_append] at h
        obtain ⟨rfl, heq⟩ := List.cons.inj h
        obtain ⟨rfl, rfl⟩ :=
          ih _ (by simp [← hn]) hhead.of_cons hhead'.of_cons hparts hparts' heq rfl
        exact ⟨rfl, rfl⟩

/-- Every text is put together in exactly one way. -/
theorem existsUnique_layout (s : List Char) : ∃! l : Layout, l.text = s := by
  obtain ⟨head, parts, hhead, hparts, rfl⟩ := exists_parts s
  refine ⟨⟨head, parts, hhead, hparts⟩, rfl, ?_⟩
  rintro ⟨head', parts', hhead', hparts'⟩ h
  obtain ⟨rfl, rfl⟩ := parts_unique hhead' hhead hparts' hparts h
  rfl

/-! ### Rendering -/

/-- The text of what a path leads to: texts as they are, nothing for null or where the path leads
nowhere, other values as JSON. -/
def shown : Option Json → List Char
  | some (.str s) => s.toList
  | some .null | none => []
  | some v => v.chars

theorem fill_hole (input : Fields) (name : List Char) :
    fill input (.hole name) = shown (input.lookup? (String.ofList name)) := by
  rw [fill]
  generalize input.lookup? (String.ofList name) = found
  rcases found with _ | (_ | _ | _ | _ | _ | _) <;> rfl

theorem piecesFrom_append {head : List Char} {parts : Parts} (hhead : Free head)
    (hparts : parts.AllFree) {fuel : ℕ} (hfuel : (head ++ parts.text).length ≤ fuel) :
    piecesFrom fuel (head ++ parts.text) = head.map .char ++ parts.pieces := by
  induction fuel generalizing head parts with
  | zero =>
    obtain ⟨rfl, htext⟩ := List.append_eq_nil_iff.mp
      (List.eq_nil_of_length_eq_zero (Nat.le_zero.mp hfuel))
    cases parts with
    | nil => rfl
    | cons part parts => exact absurd htext Parts.text_ne_nil
  | succ fuel ih =>
    cases head with
    | nil =>
      cases parts with
      | nil => rfl
      | cons part parts =>
        obtain ⟨p, lit⟩ := part
        obtain ⟨hlit, hrest⟩ := List.forall_mem_cons.mp hparts
        rw [List.nil_append, Parts.text_cons] at hfuel ⊢
        have hlen : (lit ++ Parts.text parts).length ≤ fuel := by
          simp only [List.length_append, Placeholder.text, List.length_cons] at hfuel ⊢
          omega
        have hfound := p.placeholder?_text_append (lit ++ Parts.text parts)
        rw [Placeholder.text, List.cons_append] at hfound ⊢
        rw [piecesFrom, hfound]
        simp only [ih hlit hrest hlen]
        rfl
    | cons c head =>
      rw [List.cons_append, piecesFrom, ← List.cons_append, placeholder?_of_free hhead]
      simp only [ih hhead.of_cons hparts (Nat.le_of_succ_le_succ hfuel)]
      rfl

theorem Layout.pieces_eq {l : Layout} {template : String} (h : l.text = template.toList) :
    pieces template = l.head.map .char ++ l.parts.pieces := by
  rw [pieces, ← h, Layout.text, piecesFrom_append l.head_free l.parts_free (Nat.le_refl _)]

/-- The literals as they are, and in the places of the placeholders what they lead to. -/
def Layout.filled (l : Layout) (input : Fields) : List Char :=
  l.head ++ l.parts.flatMap fun part => shown (input.lookup? part.1.path) ++ part.2

theorem Layout.render_eq {l : Layout} {template : String} (h : l.text = template.toList)
    (input : Fields) : (render template input).toList = l.filled input := by
  have hchars : ∀ s : List Char, (s.map Piece.char).flatMap (fill input) = s := by
    intro s
    rw [List.flatMap_map]
    exact List.flatMap_singleton' s
  rw [render, String.toList_ofList, l.pieces_eq h, List.flatMap_append, hchars, filled,
    Parts.pieces, List.flatMap_assoc]
  refine congrArg _ (List.flatMap_congr fun part _ => ?_)
  rw [List.flatMap_cons, hchars, fill_hole]
  rfl

/-- A template without placeholders is one literal. -/
theorem Layout.parts_eq_nil {l : Layout} {template : String} (h : l.text = template.toList)
    (hnone : hasPlaceholders template = false) : l.parts = [] := by
  rw [hasPlaceholders, l.pieces_eq h, List.any_append, Bool.or_eq_false_iff] at hnone
  obtain ⟨head, parts, hhead, hparts⟩ := l
  cases parts with
  | nil => rfl
  | cons part parts => cases hnone.2

theorem free_of_hasPlaceholders {template : String} (h : hasPlaceholders template = false) :
    Free template.toList := by
  obtain ⟨l, hl, -⟩ := existsUnique_layout template.toList
  have hparts := l.parts_eq_nil hl h
  rw [← hl, Layout.text, hparts]
  exact (List.append_nil l.head).symm ▸ l.head_free

theorem render_eq_self {template : String} (h : hasPlaceholders template = false)
    (input : Fields) : render template input = template := by
  obtain ⟨l, hl, -⟩ := existsUnique_layout template.toList
  rw [← String.toList_inj, l.render_eq hl, Layout.filled, ← hl, Layout.text, l.parts_eq_nil hl h]
  rfl

/-- A template is put together in exactly one way, rendering fills in the values of its
placeholders, and nothing else. What has been filled in is not looked at again. -/
theorem render_fills_once (template : String) :
    (∃! l : Layout, l.text = template.toList) ∧
    (∀ l : Layout, l.text = template.toList →
      ∀ input, (render template input).toList = l.filled input) ∧
    (hasPlaceholders template = false → ∀ input, render template input = template) :=
  ⟨existsUnique_layout _, fun _ => Layout.render_eq, render_eq_self⟩

/-- A placeholder behind a stray brace, with a value that looks like one, and another one that is
never closed. -/
def braced : Layout where
  head := "\x7b".toList
  parts := [({
    before := [' ']
    name := ['a']
    after := []
    before_blank := List.forall_mem_singleton.mpr (by decide)
    after_blank := List.forall_mem_nil _
    isName := ⟨⟨'a', [], rfl, by decide⟩, List.forall_mem_singleton.mpr (by decide)⟩ },
    "\x7d\x7b\x7bb\x7d".toList)]
  head_free := free_of_hasPlaceholders (by decide)
  parts_free := List.forall_mem_singleton.mpr (free_of_hasPlaceholders (by decide))

def bracedInput : Fields := [("a", .str "\x7b\x7ba\x7d\x7d"), ("b", .num (.int 1))]

theorem render_fills_once_of_braced :
    braced.text = "\x7b\x7b\x7b a\x7d\x7d\x7d\x7b\x7bb\x7d".toList ∧
    (render "\x7b\x7b\x7b a\x7d\x7d\x7d\x7b\x7bb\x7d" bracedInput).toList =
      "\x7b\x7b\x7ba\x7d\x7d\x7d\x7b\x7bb\x7d".toList ∧
    hasPlaceholders "\x7b\x7bb\x7d" = false ∧
    render "\x7b\x7bb\x7d" bracedInput = "\x7b\x7bb\x7d" := by
  have htext : braced.text = "\x7b\x7b\x7b a\x7d\x7d\x7d\x7b\x7bb\x7d".toList := by decide
  have hnone : hasPlaceholders "\x7b\x7bb\x7d" = false := by decide
  refine ⟨htext, ((render_fills_once _).2.1 braced htext bracedInput).trans ?_, hnone,
    (render_fills_once _).2.2 hnone bracedInput⟩
  decide

end Workflow.Template
