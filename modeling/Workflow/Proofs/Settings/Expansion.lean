import Mathlib.Data.List.Infix
import Workflow.Proofs.Text.Search
import Workflow.Settings.Load

/-! What becomes of a text when variables in braces are expanded. Every text is put together in
exactly one way from variables, from literals between them, and from a variable at the end whose
brace is not closed. Literals stay and variables that are set give way to their values. The variable
at the end is treated like the others, so that a brace is added behind it if it is not set. -/
namespace Workflow.Environment

/-! ### Layouts -/

/-- What may stand between the braces of a variable. -/
abbrev Name := {name : List Char // '\x7d' ∉ name}

/-- A text in which no variable begins. -/
abbrev Literal := {s : List Char // ¬ ['$', '\x7b'] <:+: s}

/-- Variables, each with the literal behind it. -/
abbrev Parts := List (Name × Literal)

/-- What a variable is written as, up to its closing brace. -/
def opening (name : Name) : List Char := '$' :: '\x7b' :: name.1

def Parts.text (parts : Parts) : List Char :=
  parts.flatMap fun part => opening part.1 ++ '\x7d' :: part.2.1

/-- The variable at the end whose brace is not closed. -/
def openText (opened : Option Name) : List Char := opened.elim [] opening

/-- A text put together. -/
structure Layout where
  head : Literal
  parts : Parts
  opened : Option Name

def Layout.text (l : Layout) : List Char := l.head.1 ++ (l.parts.text ++ openText l.opened)

theorem Parts.text_cons (name : Name) (literal : Literal) (parts : Parts) (rest : List Char) :
    text ((name, literal) :: parts) ++ rest =
      opening name ++ '\x7d' :: (literal.1 ++ (text parts ++ rest)) := by
  simp [text]

/-- What follows a literal begins a variable, if it is not the end. -/
theorem exists_opening {parts : Parts} {opened : Option Name}
    (h : parts.text ++ openText opened ≠ []) :
    ∃ s, parts.text ++ openText opened = '$' :: '\x7b' :: s := by
  cases parts with
  | nil =>
    cases opened with
    | none => exact absurd rfl h
    | some name => exact ⟨name.1, rfl⟩
  | cons part parts => exact ⟨_, Parts.text_cons part.1 part.2 parts _⟩

theorem not_infix_of_cons {c : Char} {s : List Char} (h : ¬ ['$', '\x7b'] <:+: c :: s) :
    ¬ ['$', '\x7b'] <:+: s := fun hs => h (List.infix_cons hs)

/-- A variable that is closed somewhere, or is not, stands at the beginning of the text. -/
theorem split_opening (s : List Char) :
    (∃ name : Name, ∃ rest, '$' :: '\x7b' :: s = opening name ++ '\x7d' :: rest) ∨
      ∃ name : Name, '$' :: '\x7b' :: s = opening name := by
  by_cases h : '\x7d' ∈ s
  · obtain ⟨name, rest, rfl, hname⟩ := List.eq_append_cons_of_mem h
    exact .inl ⟨⟨name, hname⟩, rest, rfl⟩
  · exact .inr ⟨⟨s, h⟩, rfl⟩

theorem exists_layout (s : List Char) : ∃ l : Layout, l.text = s := by
  induction hn : s.length using Nat.strong_induction_on generalizing s with
  | _ n ih =>
    by_cases hfront : ['$', '\x7b'] <+: s
    · obtain ⟨rest, rfl⟩ := hfront
      rcases split_opening rest with ⟨name, rest', heq⟩ | ⟨name, heq⟩
      · have hlen : rest'.length < n := by
          have hlengths := congrArg List.length heq
          simp only [opening, List.cons_append, List.length_cons, List.length_append] at hlengths
          simp only [List.cons_append, List.nil_append, List.length_cons] at hn
          omega
        obtain ⟨l, rfl⟩ := ih _ hlen rest' rfl
        refine ⟨⟨⟨[], by simp⟩, (name, l.head) :: l.parts, l.opened⟩, ?_⟩
        rw [Layout.text, Parts.text_cons]
        exact heq.symm
      · exact ⟨⟨⟨[], by simp⟩, [], some name⟩, heq.symm⟩
    · cases s with
      | nil => exact ⟨⟨⟨[], by simp⟩, [], none⟩, rfl⟩
      | cons c s =>
        obtain ⟨⟨head, parts, opened⟩, rfl⟩ := ih s.length (by simp [← hn]) s rfl
        have hhead : ¬ ['$', '\x7b'] <:+: c :: head.1 := by
          intro hin
          rcases List.infix_cons_iff.mp hin with hlead | hhead
          · exact hfront (hlead.trans ⟨_, rfl⟩)
          · exact head.2 hhead
        exact ⟨⟨⟨c :: head.1, hhead⟩, parts, opened⟩, rfl⟩

/-- A literal with something behind it is not the beginning of a variable. -/
theorem not_prefix_of_literal {c : Char} {head : List Char} (h : ¬ ['$', '\x7b'] <:+: c :: head)
    {parts : Parts} {opened : Option Name} :
    ¬ ['$', '\x7b'] <+: c :: (head ++ (parts.text ++ openText opened)) := by
  rintro ⟨s, hs⟩
  have heq : '$' :: '\x7b' :: s = c :: (head ++ (parts.text ++ openText opened)) := hs
  obtain ⟨hc, hrest⟩ := List.cons.inj heq
  cases head with
  | nil =>
    have hnext : parts.text ++ openText opened = '\x7b' :: s := hrest.symm
    obtain ⟨s', hs'⟩ := exists_opening (hnext ▸ List.cons_ne_nil _ _)
    exact absurd (List.cons.inj (hs'.symm.trans hnext)).1 (by decide)
  | cons d head =>
    obtain ⟨hd, -⟩ := List.cons.inj hrest
    exact h ⟨[], head, by simp [← hc, ← hd]⟩

/-- A literal does not go on into a variable. -/
theorem eq_nil_of_literal {head more : List Char} {parts parts' : Parts}
    {opened opened' : Option Name}
    (h : ¬ ['$', '\x7b'] <:+: head ++ more)
    (heq : parts.text ++ openText opened = more ++ (parts'.text ++ openText opened')) :
    more = [] := by
  cases more with
  | nil => rfl
  | cons c more =>
    have hmore : ¬ ['$', '\x7b'] <:+: c :: more :=
      fun hin => h (List.infix_append_of_infix_right hin)
    have hne : parts.text ++ openText opened ≠ [] := by
      rw [heq]
      exact List.cons_ne_nil _ _
    obtain ⟨s, hs⟩ := exists_opening hne
    exact absurd ⟨s, hs.symm.trans heq⟩ (not_prefix_of_literal hmore)

/-- Two texts that begin with a variable have the same one, closed or not. -/
theorem variable_unique {name name' : Name} {literal literal' : Literal} {parts parts' : Parts}
    {opened opened' : Option Name}
    (h : Parts.text ((name, literal) :: parts) ++ openText opened =
      Parts.text ((name', literal') :: parts') ++ openText opened') :
    name = name' ∧ literal.1 ++ (parts.text ++ openText opened) =
      literal'.1 ++ (parts'.text ++ openText opened') := by
  rw [Parts.text_cons, Parts.text_cons] at h
  have hnames : name.1 ++ '\x7d' :: (literal.1 ++ (parts.text ++ openText opened)) =
      name'.1 ++ '\x7d' :: (literal'.1 ++ (parts'.text ++ openText opened')) := by
    simpa [opening] using h
  have hname : name.1 = name'.1 := by
    rw [← Text.takeWhile_append_cons name.2, hnames, Text.takeWhile_append_cons name'.2]
  rw [hname] at hnames
  exact ⟨Subtype.ext hname, (List.cons.inj (List.append_cancel_left hnames)).2⟩

theorem variable_ne_opened {name : Name} {literal : Literal} {parts : Parts}
    {opened opened' : Option Name} :
    Parts.text ((name, literal) :: parts) ++ openText opened ≠ openText opened' := by
  intro h
  cases opened' with
  | none => cases h
  | some name' =>
    rw [Parts.text_cons] at h
    have hname : name.1 ++ '\x7d' :: (literal.1 ++ (parts.text ++ openText opened)) = name'.1 := by
      simpa [opening, openText] using h
    exact name'.2 (hname ▸ List.mem_append_right _ List.mem_cons_self)

theorem head_unique {head head' : Literal} {parts parts' : Parts} {opened opened' : Option Name}
    (h : head.1 ++ (parts.text ++ openText opened) = head'.1 ++ (parts'.text ++ openText opened')) :
    head = head' ∧ parts.text ++ openText opened = parts'.text ++ openText opened' := by
  rcases List.append_eq_append_iff.mp h with ⟨more, hhead, hrest⟩ | ⟨more, hhead, hrest⟩
  · have hnil : more = [] := eq_nil_of_literal (hhead ▸ head'.2) hrest
    rw [hnil, List.append_nil] at hhead
    rw [hnil] at hrest
    exact ⟨Subtype.ext hhead.symm, hrest⟩
  · have hnil : more = [] := eq_nil_of_literal (hhead ▸ head.2) hrest
    rw [hnil, List.append_nil] at hhead
    rw [hnil] at hrest
    exact ⟨Subtype.ext hhead, hrest.symm⟩

theorem parts_unique {parts parts' : Parts} {opened opened' : Option Name}
    (h : parts.text ++ openText opened = parts'.text ++ openText opened') :
    parts = parts' ∧ opened = opened' := by
  induction parts generalizing parts' with
  | nil =>
    cases parts' with
    | nil =>
      refine ⟨rfl, ?_⟩
      have hopen : openText opened = openText opened' := h
      cases opened with
      | none =>
        cases opened' with
        | none => rfl
        | some name' => cases hopen
      | some name =>
        cases opened' with
        | none => cases hopen
        | some name' =>
          have hname : name.1 = name'.1 := by simpa [openText, opening] using hopen
          exact congrArg some (Subtype.ext hname)
    | cons part' parts' => exact absurd h.symm variable_ne_opened
  | cons part parts ih =>
    cases parts' with
    | nil => exact absurd h variable_ne_opened
    | cons part' parts' =>
      obtain ⟨hname, hrest⟩ := variable_unique h
      obtain ⟨hliteral, hmore⟩ := head_unique hrest
      obtain ⟨hparts, hopened⟩ := ih hmore
      exact ⟨by rw [Prod.ext hname hliteral, hparts], hopened⟩

/-- Every text is put together in exactly one way. -/
theorem existsUnique_layout (s : List Char) : ∃! l : Layout, l.text = s := by
  obtain ⟨⟨head, parts, opened⟩, rfl⟩ := exists_layout s
  refine ⟨⟨head, parts, opened⟩, rfl, ?_⟩
  rintro ⟨head', parts', opened'⟩ h
  obtain ⟨rfl, hrest⟩ := head_unique h
  obtain ⟨rfl, rfl⟩ := parts_unique hrest
  rfl

/-! ### Expanding -/

variable (env : Environment)

/-- What takes the place of a variable: its value, or the variable with its closing brace. -/
def valued (name : Name) : List Char :=
  match env.get? (String.ofList name.1) with
  | some v => v.toList
  | none => opening name ++ ['\x7d']

def Parts.filled (parts : Parts) : List Char :=
  parts.flatMap fun part => valued env part.1 ++ part.2.1

/-- The text up to the variable at the end: literals as they are, and variables with
their values. -/
def Layout.filled (l : Layout) : List Char := l.head.1 ++ l.parts.filled env

theorem variableRule_closed (name : Name) (rest : List Char) :
    env.variableRule (opening name ++ '\x7d' :: rest) =
      some (name.1.length + 3, valued env name) := by
  rw [opening, List.cons_append, List.cons_append, variableRule, Text.takeWhile_append_cons name.2]
  rfl

theorem variableRule_opened (name : Name) :
    env.variableRule (opening name) = some (name.1.length + 3, valued env name) := by
  rw [opening, variableRule, Text.takeWhile_of_not_mem name.2]
  rfl

theorem variableRule_eq_none {s : List Char} (h : ¬ ['$', '\x7b'] <+: s) :
    env.variableRule s = none := by
  unfold variableRule
  split
  · exact absurd ⟨_, rfl⟩ h
  · rfl

/-- A literal stays as it is. -/
theorem substitute_literal {head : List Char} (hhead : ¬ ['$', '\x7b'] <:+: head) {parts : Parts}
    {opened : Option Name} :
    Text.substitute env.variableRule (head ++ (parts.text ++ openText opened)) =
      head ++ Text.substitute env.variableRule (parts.text ++ openText opened) := by
  induction head with
  | nil => rfl
  | cons c head ih =>
    have hfront : ¬ ['$', '\x7b'] <+: c :: (head ++ (parts.text ++ openText opened)) :=
      not_prefix_of_literal hhead
    have hrest := ih (not_infix_of_cons hhead)
    rw [List.cons_append, Text.substitute_cons_of_none (variableRule_eq_none env hfront), hrest,
      List.cons_append]

theorem substitute_closed (name : Name) (rest : List Char) :
    Text.substitute env.variableRule (opening name ++ '\x7d' :: rest) =
      valued env name ++ Text.substitute env.variableRule rest := by
  have hrule : env.variableRule ((opening name ++ ['\x7d']) ++ rest) =
      some ((opening name ++ ['\x7d']).length, valued env name) := by
    simpa [opening] using variableRule_closed env name rest
  rw [List.append_cons]
  exact Text.substitute_append_of_some (by simp) hrule

theorem substitute_opened (name : Name) :
    Text.substitute env.variableRule (opening name) = valued env name := by
  have hrule := variableRule_opened env name
  have hskip := Text.substituteFrom_of_length_le env.variableRule
    (show ('\x7b' :: name.1).length ≤ name.1.length + 2 by simp)
  unfold Text.substitute
  rw [opening] at hrule ⊢
  rw [Text.substituteFrom, hrule]
  exact (congrArg (valued env name ++ ·) hskip).trans (List.append_nil _)

/-- What takes the place of the variable at the end. -/
def openValued (opened : Option Name) : List Char := opened.elim [] (valued env)

theorem Parts.filled_cons (name : Name) (literal : Literal) (parts : Parts) :
    filled env ((name, literal) :: parts) = valued env name ++ (literal.1 ++ filled env parts) := by
  simp [filled]

theorem substitute_parts (parts : Parts) (opened : Option Name) :
    Text.substitute env.variableRule (parts.text ++ openText opened) =
      parts.filled env ++ openValued env opened := by
  induction parts with
  | nil =>
    cases opened with
    | none => rfl
    | some name => exact substitute_opened env name
  | cons part parts ih =>
    obtain ⟨name, literal⟩ := part
    rw [Parts.text_cons, substitute_closed, substitute_literal env literal.2, ih, Parts.filled_cons]
    simp only [List.append_assoc]

theorem Layout.expand_eq {l : Layout} {text : String} (h : l.text = text.toList) :
    (env.expand text).toList = l.filled env ++ openValued env l.opened := by
  rw [expand, String.toList_ofList, ← h, Layout.text, substitute_literal env l.head.2,
    substitute_parts, filled, List.append_assoc]

theorem Parts.filled_of_unset (h : ∀ name, env.get? name = none) (parts : Parts) :
    parts.filled env = parts.text := by
  unfold filled text
  refine List.flatMap_congr fun part _ => ?_
  rw [valued, h]
  exact (List.append_cons _ _ _).symm

/-- Without variables, all that is added is the brace that is not there. -/
theorem Layout.expand_of_unset {l : Layout} {text : String} (h : l.text = text.toList)
    (hunset : ∀ name, env.get? name = none) :
    (env.expand text).toList = text.toList ++ l.opened.elim [] fun _ => ['\x7d'] := by
  rw [l.expand_eq env h, ← h, Layout.text, filled, Parts.filled_of_unset env hunset]
  cases l.opened with
  | none => simp [openValued, openText]
  | some name => simp [openValued, openText, valued, hunset]

/-- A text is put together in exactly one way. Its literals stay as they are, its variables that are
set give way to their values, which are not looked at again, and those that are not set stay. A
variable at the end whose brace is not closed counts as one that is closed there. So without
variables a text stays as it is, but for that brace. -/
theorem expand_fills_once (text : String) :
    (∃! l : Layout, l.text = text.toList) ∧
    ∀ l : Layout, l.text = text.toList → ∀ env : Environment,
      (env.expand text).toList = l.filled env ++ openValued env l.opened ∧
      ((∀ name, env.get? name = none) →
        (env.expand text).toList = text.toList ++ l.opened.elim [] fun _ => ['\x7d']) :=
  ⟨existsUnique_layout _, fun l h env => ⟨l.expand_eq env h, l.expand_of_unset env h⟩⟩

/-- A stray dollar sign before a variable, a brace behind another, and one that is not closed. -/
def dangling : Layout where
  head := ⟨"$".toList, by decide⟩
  parts := [(⟨"A".toList, by decide⟩, ⟨" ".toList, by decide⟩),
    (⟨"B".toList, by decide⟩, ⟨"\x7d".toList, by decide⟩)]
  opened := some ⟨"A\x7bB".toList, by decide⟩

/-- Variables one of which has a value that looks like the other. -/
def danglingVariables : Environment := [("A", "$\x7bB\x7d"), ("B", "b")]

theorem expand_fills_once_of_dangling :
    dangling.text = "$$\x7bA\x7d $\x7bB\x7d\x7d$\x7bA\x7bB".toList ∧
    (danglingVariables.expand "$$\x7bA\x7d $\x7bB\x7d\x7d$\x7bA\x7bB").toList =
      "$$\x7bB\x7d b\x7d$\x7bA\x7bB\x7d".toList ∧
    (∀ name, Environment.get? [] name = none) ∧
    (Environment.expand [] "$$\x7bA\x7d $\x7bB\x7d\x7d$\x7bA\x7bB").toList =
      "$$\x7bA\x7d $\x7bB\x7d\x7d$\x7bA\x7bB\x7d".toList := by
  have htext : dangling.text = "$$\x7bA\x7d $\x7bB\x7d\x7d$\x7bA\x7bB".toList := by decide
  have hunset : ∀ name, Environment.get? [] name = none := fun _ => rfl
  obtain ⟨-, hexpand⟩ := expand_fills_once "$$\x7bA\x7d $\x7bB\x7d\x7d$\x7bA\x7bB"
  refine ⟨htext, (hexpand dangling htext danglingVariables).1.trans ?_, hunset,
    ((hexpand dangling htext []).2 hunset).trans ?_⟩
  · decide
  · decide

/-- Expanding a text changes nothing but the variables that are set and closed. -/
def ChangesNothingElse : Prop :=
  ∀ (text : String) (l : Layout), l.text = text.toList → ∀ env : Environment,
    (env.expand text).toList = l.filled env ++ openText l.opened

/-- A variable that is neither set nor closed is closed. -/
theorem not_changesNothingElse_of_open : ¬ ChangesNothingElse := by
  intro h
  have hopen := h "$\x7bOPEN" ⟨⟨[], by decide⟩, [], some ⟨"OPEN".toList, by decide⟩⟩ (by decide) []
  revert hopen
  decide

end Workflow.Environment
