import Workflow.Proofs.Predicate.Grammar
import Workflow.Proofs.Text.Letters

/-! Writing predicates down, and reading back what has been written. -/
namespace Workflow.Predicate

/-! ### How a predicate is written -/

def keywords : List String := ["true", "false", "null", "and", "or", "not", "contains"]

def isWord : List Char → Bool
  | [] => false
  | c :: r => startsWord c && r.all isWordChar

/-- An identifier that is no keyword. -/
def IsName (name : String) : Prop := isWord name.toList = true ∧ name ∉ keywords

instance (name : String) : Decidable (IsName name) := inferInstanceAs (Decidable (_ ∧ _))

/-- Made of names, texts, `true`, `false` and `null`. -/
def Expressible : Predicate → Prop
  | literal (.str _) | literal (.bool _) | literal .null => True
  | literal _ => False
  | path name => IsName name
  | not a => a.Expressible
  | and a b | or a b | compare _ a b => a.Expressible ∧ b.Expressible

def escape (c : Char) : List Char := if c = '"' ∨ c = '\\' then ['\\', c] else [c]

/-- A text between double quotes. -/
def quoted (s : List Char) : List Char := '"' :: (s.flatMap escape ++ ['"'])

def isCompound : Predicate → Bool
  | literal _ | path _ => false
  | not _ | and _ _ | or _ _ | compare _ _ _ => true

/-- An operand `p` that is written `s`: a compound one stands between parentheses. -/
def operand (p : Predicate) (s : List Char) : List Char :=
  if p.isCompound then '(' :: (s ++ [')']) else s

namespace Token

/-- The connective in special characters. -/
def sign? : Token → Option String
  | and => some "&&"
  | or => some "||"
  | not => some "!"
  | op .contains => none
  | op o => some o.symbol
  | _ => none

/-- The connective in letters. -/
def word? : Token → Option String
  | and => some "and"
  | or => some "or"
  | not => some "not"
  | op .contains => some "contains"
  | _ => none

/-- The connective in letters or in special characters, where it can be written so. -/
def spelling (words : Bool) (t : Token) : String :=
  if words then (t.word? <|> t.sign?).getD "" else (t.sign? <|> t.word?).getD ""

end Token

/-- The predicate with its connectives in letters or in special characters, with a blank around each
that joins two operands. Numbers, arrays and objects are not written. -/
def written (words : Bool) : Predicate → List Char
  | path name => name.toList
  | literal (.str s) => quoted s.toList
  | literal (.bool b) => (if b then "true" else "false").toList
  | literal .null => "null".toList
  | literal _ => []
  | not a => (if words then ['n', 'o', 't', ' '] else ['!']) ++ operand a (a.written words)
  | and a b => joined .and a b (a.written words) (b.written words)
  | or a b => joined .or a b (a.written words) (b.written words)
  | compare op a b => joined (.op op) a b (a.written words) (b.written words)
where
  joined (t : Token) (a b : Predicate) (s u : List Char) : List Char :=
    operand a s ++ ((' ' :: (t.spelling words).toList ++ [' ']) ++ operand b u)

def text (words : Bool) (p : Predicate) : String := String.ofList (p.written words)

/-- White space. -/
def Gap (g : List Char) : Prop := ∀ c ∈ g, Text.isBlank c = true

instance (g : List Char) : Decidable (Gap g) := List.decidableBAll _ g

/-- A connective with the white space around it. Around letters there must be some. -/
inductive Joint (t : Token) : List Char → Prop
  | sign {s : String} {g h : List Char} : t.sign? = some s → Gap g → Gap h →
      Joint t (g ++ (s.toList ++ h))
  | word {w : String} {g h : List Char} : t.word? = some w → Gap g → Gap h → g ≠ [] → h ≠ [] →
      Joint t (g ++ (w.toList ++ h))

/-- The ways to write a predicate: each connective in special characters or in letters, with any
white space around it. -/
inductive Spelled : Predicate → List Char → Prop
  | path {name : String} : IsName name → Spelled (.path name) name.toList
  | text (s : String) : Spelled (.literal (.str s)) (quoted s.toList)
  | bool (b : Bool) : Spelled (.literal (.bool b)) (if b then "true" else "false").toList
  | null : Spelled (.literal .null) "null".toList
  | notSign {a : Predicate} {s g : List Char} : Spelled a s → Gap g →
      Spelled (.not a) ('!' :: (g ++ operand a s))
  | notWord {a : Predicate} {s g : List Char} : Spelled a s → Gap g → g ≠ [] →
      Spelled (.not a) ("not".toList ++ (g ++ operand a s))
  | and {a b : Predicate} {s u j : List Char} : Spelled a s → Spelled b u → Joint .and j →
      Spelled (.and a b) (operand a s ++ (j ++ operand b u))
  | or {a b : Predicate} {s u j : List Char} : Spelled a s → Spelled b u → Joint .or j →
      Spelled (.or a b) (operand a s ++ (j ++ operand b u))
  | compare {a b : Predicate} {s u j : List Char} (op : Workflow.Comparison) : Spelled a s →
      Spelled b u → Joint (.op op) j → Spelled (.compare op a b) (operand a s ++ (j ++ operand b u))

/-! ### Scanning what is written -/

theorem isWordChar_of_startsWord {c : Char} (h : startsWord c = true) : isWordChar c = true := by
  rw [startsWord, Bool.or_eq_true, Bool.or_eq_true, beq_iff_eq, beq_iff_eq] at h
  obtain (h | rfl) | rfl := h
  · rw [isWordChar, Text.isLetterOrNumber_of_isLetter h]
    rfl
  · rfl
  · rfl

theorem isWordChar_of_isBlank {c : Char} (h : Text.isBlank c = true) : isWordChar c = false := by
  by_contra hw
  rw [Bool.not_eq_false, isWordChar, Text.isLetterOrNumber_of_isBlank h] at hw
  simp only [Bool.false_or, Bool.or_eq_true, beq_iff_eq] at hw
  obtain ((rfl | rfl) | rfl) | rfl := hw <;> revert h <;> decide

theorem isBlank_of_startsWord {c : Char} (h : startsWord c = true) : Text.isBlank c = false := by
  by_contra hb
  rw [Bool.not_eq_false] at hb
  exact absurd (isWordChar_of_startsWord h) (by rw [isWordChar_of_isBlank hb]; decide)

theorem startsWord_of_isDigit {c : Char} (h : c.isDigit = true) : startsWord c = false := by
  have hlow : c.toNat ∈ List.range' 48 10 := by
    simp only [Char.isDigit, Bool.and_eq_true, decide_eq_true_eq] at h
    rw [List.mem_range'_1]
    exact ⟨h.1, Nat.lt_succ_of_le h.2⟩
  rw [← Char.ofNat_toNat c]
  generalize c.toNat = n at hlow
  revert n
  decide

theorem not_special_of_startsWord {c : Char} (h : startsWord c = true) :
    c ∉ ['(', ')', '"', '\'', '&', '|', '=', '!', '<', '>', '-'] := by
  intro hc
  have hnone : ['(', ')', '"', '\'', '&', '|', '=', '!', '<', '>', '-'].all (!startsWord ·) := by
    decide
  rw [List.all_eq_true] at hnone
  exact absurd h (by simpa using hnone c hc)

theorem exists_cons_of_isWord {w : List Char} (h : isWord w = true) :
    ∃ c r, w = c :: r ∧ startsWord c = true ∧ r.all isWordChar = true := by
  cases w with
  | nil => cases h
  | cons c r => exact ⟨c, r, rfl, Bool.and_eq_true_iff.mp h⟩

/-- No word goes on at the beginning of the text. -/
def EndsWord (s : List Char) : Prop := ∀ c ∈ s.head?, isWordChar c = false

theorem takeWhile_word {r rest : List Char} (hr : r.all isWordChar = true) (h : EndsWord rest) :
    (r ++ rest).takeWhile isWordChar = r := by
  rw [List.takeWhile_append_of_pos (List.all_eq_true.mp hr)]
  cases rest with
  | nil => simp
  | cons c rest => rw [List.takeWhile_cons_of_neg (by simp [h c rfl]), List.append_nil]

theorem dropWhile_word {r rest : List Char} (hr : r.all isWordChar = true) (h : EndsWord rest) :
    (r ++ rest).dropWhile isWordChar = rest := by
  rw [List.dropWhile_append_of_pos (List.all_eq_true.mp hr)]
  cases rest with
  | nil => rfl
  | cons c rest => rw [List.dropWhile_cons_of_neg (by simp [h c rfl])]

theorem scanToken_word {b : Bool} {c : Char} {r rest : List Char} (hc : startsWord c = true)
    (hr : r.all isWordChar = true) (hrest : EndsWord rest) :
    scanToken b c (r ++ rest) = .ok (.ofWord (String.ofList (c :: r)), rest) := by
  have hspecial := not_special_of_startsWord hc
  have hdigit : c.isDigit = false := by
    by_contra hd
    rw [Bool.not_eq_false] at hd
    exact absurd hc (by rw [startsWord_of_isDigit hd]; decide)
  simp only [List.mem_cons, List.not_mem_nil, not_or] at hspecial
  simp [scanToken, hspecial, hdigit, hc, takeWhile_word hr hrest, dropWhile_word hr hrest]

theorem scanString_escape (s acc rest : List Char) :
    scanString '"' acc (s.flatMap escape ++ '"' :: rest) = some (acc.reverse ++ s, rest) := by
  induction s generalizing acc with
  | nil => simp [scanString]
  | cons c s ih =>
    rw [List.flatMap_cons, List.append_assoc, escape]
    split
    · rw [List.cons_append, List.cons_append, List.nil_append, scanString, ih]
      simp
    · rename_i hc
      rw [not_or] at hc
      rw [List.cons_append, List.nil_append, scanString, if_neg hc.1, ih]
      · simp
      · exact fun h => absurd h hc.2
      · exact fun _ _ h => absurd h hc.2

/-- In front of no equals sign, these characters are tokens of their own. -/
theorem scanToken_single {c : Char} {t : Token} {rest : List Char}
    (hc : (c, t) ∈ [('!', .not), ('<', .op .lt), ('>', .op .gt)]) (b : Bool)
    (hrest : rest.head? ≠ some '=') : scanToken b c rest = .ok (t, rest) := by
  simp only [List.mem_cons, Prod.mk.injEq, List.not_mem_nil, or_false] at hc
  cases rest with
  | nil => obtain ⟨rfl, rfl⟩ | ⟨rfl, rfl⟩ | ⟨rfl, rfl⟩ := hc <;> rfl
  | cons d rest =>
    have hd : d ≠ '=' := fun h => hrest (by rw [h]; rfl)
    obtain ⟨rfl, rfl⟩ | ⟨rfl, rfl⟩ | ⟨rfl, rfl⟩ := hc <;> simp [scanToken, hd]

theorem scanToken_sign {t : Token} {s : String} (ht : t.sign? = some s) (b : Bool)
    {rest : List Char} (hrest : rest.head? ≠ some '=') :
    ∃ c r, s.toList = c :: r ∧ Text.isBlank c = false ∧ isWordChar c = false ∧
      scanToken b c (r ++ rest) = .ok (t, rest) := by
  unfold Token.sign? at ht
  split at ht <;> cases ht
  · exact ⟨'&', ['&'], rfl, rfl, rfl, rfl⟩
  · exact ⟨'|', ['|'], rfl, rfl, rfl, rfl⟩
  · exact ⟨'!', [], rfl, rfl, rfl, scanToken_single (by decide) b hrest⟩
  · rename_i op hop
    cases op with
    | eq => exact ⟨'=', ['='], rfl, rfl, rfl, rfl⟩
    | ne => exact ⟨'!', ['='], rfl, rfl, rfl, rfl⟩
    | ge => exact ⟨'>', ['='], rfl, rfl, rfl, rfl⟩
    | le => exact ⟨'<', ['='], rfl, rfl, rfl, rfl⟩
    | gt => exact ⟨'>', [], rfl, rfl, rfl, scanToken_single (by decide) b hrest⟩
    | lt => exact ⟨'<', [], rfl, rfl, rfl, scanToken_single (by decide) b hrest⟩
    | contains => exact absurd rfl hop

/-! ### The tokens of the parts -/

section Parts

variable {b : Bool} {rest : List Char} {us : List Token}

theorem Tokens.gap {g : List Char} (hg : Gap g) (h : Tokens b rest us) :
    Tokens b (g ++ rest) us := by
  induction g with
  | nil => exact h
  | cons c g ih =>
    exact .blank (hg c List.mem_cons_self) (ih fun d hd => hg d (List.mem_cons_of_mem c hd))

theorem Tokens.word {w : String} (hw : isWord w.toList = true) (hrest : EndsWord rest)
    (h : Tokens (Token.ofWord w).endsOperand rest us) :
    Tokens b (w.toList ++ rest) (.ofWord w :: us) := by
  obtain ⟨c, r, hcr, hc, hr⟩ := exists_cons_of_isWord hw
  have hscan := scanToken_word (b := b) hc hr hrest
  rw [← hcr, String.ofList_toList] at hscan
  rw [hcr]
  exact .token (isBlank_of_startsWord hc) hscan h

theorem Tokens.sign {t : Token} {s : String} (ht : t.sign? = some s)
    (hrest : rest.head? ≠ some '=') (h : Tokens t.endsOperand rest us) :
    Tokens b (s.toList ++ rest) (t :: us) := by
  obtain ⟨c, r, hcr, hblank, -, hscan⟩ := scanToken_sign ht b hrest
  rw [hcr]
  exact .token hblank hscan h

theorem Tokens.text {s : String} (h : Tokens true rest us) :
    Tokens b (quoted s.toList ++ rest) (.str s :: us) := by
  refine .token rfl ?_ h
  rw [List.append_eq, List.append_assoc, List.singleton_append]
  simp [scanToken, scanString_escape]

theorem Tokens.group {ts : List Token} {s : List Char}
    (h : Tokens false (s ++ ')' :: rest) (ts ++ .rparen :: us)) :
    Tokens b ('(' :: (s ++ [')']) ++ rest) (.lparen :: ts ++ [.rparen] ++ us) := by
  rw [List.cons_append, List.append_assoc, List.singleton_append]
  refine .token rfl rfl ?_
  simpa [Token.endsOperand] using h

theorem gap_endsWord {g : List Char} (hg : Gap g) (hne : g ≠ []) : EndsWord (g ++ rest) := by
  cases g with
  | nil => exact absurd rfl hne
  | cons c g =>
    rintro d ⟨⟩
    exact isWordChar_of_isBlank (hg c List.mem_cons_self)

theorem gap_no_equals {g : List Char} (hg : Gap g) (hrest : rest.head? ≠ some '=') :
    (g ++ rest).head? ≠ some '=' := by
  cases g with
  | nil => exact hrest
  | cons c g =>
    rintro ⟨⟩
    exact absurd (hg '=' List.mem_cons_self) (by decide)

theorem Token.ofWord_word? {t : Token} {w : String} (h : t.word? = some w) :
    Token.ofWord w = t ∧ isWord w.toList = Bool.true := by
  unfold Token.word? at h
  split at h <;> cases h <;> exact ⟨rfl, by decide⟩

theorem Token.ofWord_name {w : String} (h : w ∉ keywords) : Token.ofWord w = .ident w := by
  unfold Token.ofWord
  split <;> first | rfl | exact absurd (by decide) h

theorem Token.endsOperand_sign? {t : Token} {s : String} (h : t.sign? = some s) :
    t.endsOperand = Bool.false := by
  cases t <;> first | rfl | cases h

theorem Token.endsOperand_word? {t : Token} {s : String} (h : t.word? = some s) :
    t.endsOperand = Bool.false := by
  cases t <;> first | rfl | cases h

theorem Tokens.joint {t : Token} {j : List Char} (hj : Joint t j) (hrest : rest.head? ≠ some '=')
    (h : Tokens false rest us) : Tokens b (j ++ rest) (t :: us) := by
  cases hj with
  | @sign s g g' hs hg hg' =>
    rw [List.append_assoc, List.append_assoc]
    refine .gap hg (.sign hs (gap_no_equals hg' hrest) ?_)
    rw [Token.endsOperand_sign? hs]
    exact .gap hg' h
  | @word w g g' hw hg hg' hne hne' =>
    obtain ⟨hof, hword⟩ := Token.ofWord_word? hw
    rw [List.append_assoc, List.append_assoc]
    refine .gap hg (hof ▸ .word hword (gap_endsWord hg' hne') ?_)
    rw [hof, Token.endsOperand_word? hw]
    exact .gap hg' h

theorem Joint.endsWord {t : Token} {j : List Char} (hj : Joint t j) : EndsWord (j ++ rest) := by
  cases hj with
  | @sign s g g' hs hg _ =>
    by_cases hne : g = []
    -- Without white space in front of it, the connective itself must end the word.
    · obtain ⟨c, r, hcr, -, hc, -⟩ := scanToken_sign hs false
        (show ([] : List Char).head? ≠ some '=' from nofun)
      rw [hne, hcr]
      rintro d ⟨⟩
      exact hc
    · rw [List.append_assoc]
      exact gap_endsWord hg hne
  | word _ hg _ hne _ =>
    rw [List.append_assoc]
    exact gap_endsWord hg hne

end Parts

/-! ### Reading back what is written -/

/-- The text is scanned into `ts` wherever no word goes on behind it. -/
def Scans (s : List Char) (ts : List Token) : Prop :=
  ∀ (b : Bool) (rest : List Char) (us : List Token), EndsWord rest → Tokens true rest us →
    Tokens b (s ++ rest) (ts ++ us)

/-- The text is scanned into tokens that a rule of the grammar makes into the predicate. It begins
with no equals sign, so an operator in front of it ends there. -/
structure Reads (rule : List Token → Predicate → Prop) (s : List Char) (p : Predicate) : Prop where
  begins : ∃ c r, s = c :: r ∧ c ≠ '='
  derived : ∃ ts, rule ts p ∧ Scans s ts

theorem Reads.no_equals {rule : List Token → Predicate → Prop} {s : List Char} {p : Predicate}
    (h : Reads rule s p) (rest : List Char) : (s ++ rest).head? ≠ some '=' := by
  obtain ⟨c, r, rfl, hc⟩ := h.begins
  exact fun heq => hc (Option.some.inj heq)

theorem Reads.mono {rule rule' : List Token → Predicate → Prop} {s : List Char} {p : Predicate}
    (h : Reads rule s p) (hrule : ∀ ts, rule ts p → rule' ts p) : Reads rule' s p :=
  ⟨h.begins, h.derived.imp fun ts => And.imp_left (hrule ts)⟩

theorem reads_word {w : String} {p : Predicate} (hw : isWord w.toList = true)
    (hend : (Token.ofWord w).endsOperand = true) (hp : Grammar.Primary [Token.ofWord w] p) :
    Reads Grammar.Primary w.toList p := by
  refine ⟨?_, [Token.ofWord w], hp, fun b rest us hrest hus => .word hw hrest (hend ▸ hus)⟩
  obtain ⟨c, r, hcr, hc, -⟩ := exists_cons_of_isWord hw
  refine ⟨c, r, hcr, ?_⟩
  rintro rfl
  cases hc

theorem Spelled.reads_primary {p : Predicate} {s : List Char} (h : Spelled p s)
    (hp : p.isCompound = false) : Reads Grammar.Primary s p := by
  cases h with
  | path hname =>
    obtain ⟨hword, hfree⟩ := hname
    have hof := Token.ofWord_name hfree
    exact reads_word hword (by rw [hof]; rfl) (by rw [hof]; exact .path _)
  | text s => exact ⟨⟨_, _, rfl, by decide⟩, [.str s], .text s, fun _ _ _ _ => .text⟩
  | bool b =>
    cases b with
    | true => exact reads_word (w := "true") (by decide) rfl .true
    | false => exact reads_word (w := "false") (by decide) rfl .false
  | null => exact reads_word (w := "null") (by decide) rfl .null
  | notSign | notWord | and | or | compare => cases hp

theorem Reads.operand {p : Predicate} {s : List Char} (hs : Spelled p s)
    (h : Reads Grammar.Disjunction s p) : Reads Grammar.Primary (operand p s) p := by
  unfold Predicate.operand
  split
  · obtain ⟨ts, hts, hscan⟩ := h.derived
    refine ⟨⟨_, _, rfl, by decide⟩, _, .group hts, fun b rest us _ hus =>
      .group (hscan false _ _ ?_ ?_)⟩
    · rintro c ⟨⟩
      rfl
    · exact .token rfl rfl hus
  · rename_i hp
    exact hs.reads_primary (by simpa using hp)

/-- Two operands and a connective between them. -/
theorem Reads.joined {t : Token} {p a b : Predicate} {s u j : List Char} (hj : Joint t j)
    (ha : Reads Grammar.Primary s a) (hb : Reads Grammar.Primary u b)
    (hrule : ∀ ts us, Grammar.Primary ts a → Grammar.Primary us b →
      Grammar.Disjunction (ts ++ t :: us) p) : Reads Grammar.Disjunction (s ++ (j ++ u)) p := by
  obtain ⟨ts, hts, hs⟩ := ha.derived
  obtain ⟨us, hus, hu⟩ := hb.derived
  refine ⟨?_, _, hrule ts us hts hus, fun b' rest vs hrest hvs => ?_⟩
  · obtain ⟨c, r, rfl, hc⟩ := ha.begins
    exact ⟨c, _, rfl, hc⟩
  · rw [List.append_assoc, List.append_assoc, List.append_assoc, List.cons_append]
    exact hs b' _ _ hj.endsWord (.joint hj (hb.no_equals rest) (hu false rest vs hrest hvs))

/-- A negation, whose sign or word with the blanks behind it is `j`. -/
theorem Reads.negated {a : Predicate} {s j : List Char} (ha : Reads Grammar.Primary s a)
    (hbegins : ∃ c r, j = c :: r ∧ c ≠ '=')
    (hj : ∀ b rest us, rest.head? ≠ some '=' → Tokens false rest us →
      Tokens b (j ++ rest) (.not :: us)) : Reads Grammar.Disjunction (j ++ s) (.not a) := by
  obtain ⟨ts, hts, hs⟩ := ha.derived
  refine ⟨?_, .not :: ts, .conjunction (.unary (.not (.comparison (.primary hts)))),
    fun b rest us hrest hus => ?_⟩
  · obtain ⟨c, r, rfl, hc⟩ := hbegins
    exact ⟨c, _, rfl, hc⟩
  · rw [List.append_assoc]
    exact hj b _ _ (ha.no_equals rest) (hs false rest us hrest hus)

theorem Spelled.reads {p : Predicate} {s : List Char} (h : Spelled p s) :
    Reads Grammar.Disjunction s p := by
  -- Induction on the way of writing: an operand is a primary of the grammar whatever it is, on its
  -- own or between parentheses, so the rules apply to it without regard to what binds tighter.
  have hsimple {p : Predicate} {s : List Char} (h : Spelled p s) (hp : p.isCompound = false) :
      Reads Grammar.Disjunction s p :=
    (h.reads_primary hp).mono fun _ hts => .conjunction (.unary (.comparison (.primary hts)))
  induction h with
  | path hname => exact hsimple (.path hname) rfl
  | text s => exact hsimple (.text s) rfl
  | bool b => exact hsimple (.bool b) rfl
  | null => exact hsimple .null rfl
  | notSign hs hg ih =>
    rw [← List.cons_append]
    refine (ih.operand hs).negated ⟨_, _, rfl, by decide⟩ fun b rest us hrest hus => ?_
    rw [List.cons_append]
    exact .token rfl (scanToken_single (by decide) b (gap_no_equals hg hrest)) (.gap hg hus)
  | notWord hs hg hne ih =>
    rw [← List.append_assoc]
    refine (ih.operand hs).negated ⟨_, _, rfl, by decide⟩ fun b rest us hrest hus => ?_
    rw [List.append_assoc]
    exact .word (w := "not") (by decide) (gap_endsWord hg hne) (.gap hg hus)
  | and ha hb hj iha ihb =>
    exact (iha.operand ha).joined hj (ihb.operand hb) fun ts us hts hus =>
      .conjunction (.and (.unary (.comparison (.primary hts))) (.comparison (.primary hus)))
  | or ha hb hj iha ihb =>
    exact (iha.operand ha).joined hj (ihb.operand hb) fun ts us hts hus =>
      .or (.conjunction (.unary (.comparison (.primary hts))))
        (.unary (.comparison (.primary hus)))
  | compare op ha hb hj iha ihb =>
    exact (iha.operand ha).joined hj (ihb.operand hb) fun ts us hts hus =>
      .conjunction (.unary (.comparison (.compare op hts hus)))

theorem parse_of_spelled {p : Predicate} {s : List Char} (h : Spelled p s) :
    parse (String.ofList s) = .ok p := by
  obtain ⟨ts, hts, hscan⟩ := h.reads.derived
  refine parse_eq_ok_iff.mpr ⟨ts, ?_, hts⟩
  have htokens := hscan false [] [] nofun (.nil _)
  rwa [List.append_nil, List.append_nil, ← String.toList_ofList (l := s)] at htokens

theorem joint_spelling (words : Bool) {t : Token} (ht : t.sign?.isSome ∨ t.word?.isSome) :
    Joint t (' ' :: (t.spelling words).toList ++ [' ']) := by
  have hblank : Gap [' '] := by decide
  have hspelling : t.sign? = some (t.spelling words) ∨ t.word? = some (t.spelling words) := by
    cases hsign : t.sign? <;> cases hword : t.word? <;> cases words <;>
      simp_all [Token.spelling]
  obtain h | h := hspelling
  · exact .sign h hblank hblank
  · exact .word h hblank hblank nofun nofun

theorem Expressible.spelled_written (words : Bool) {p : Predicate} (h : p.Expressible) :
    Spelled p (p.written words) := by
  induction p with
  | literal v =>
    cases v with
    | str s => exact .text s
    | bool b => exact .bool b
    | null => exact .null
    | num | arr | obj => exact h.elim
  | path name => exact .path h
  | not a ih =>
    cases words with
    | true => exact .notWord (g := [' ']) (ih h) (by decide) nofun
    | false => exact .notSign (g := []) (ih h) nofun
  | and a b iha ihb =>
    exact .and (iha h.1) (ihb h.2) (joint_spelling words (by decide))
  | or a b iha ihb =>
    exact .or (iha h.1) (ihb h.2) (joint_spelling words (by decide))
  | compare op a b iha ihb =>
    exact .compare op (iha h.1) (ihb h.2) (joint_spelling words (by cases op <;> decide))

/-- Every predicate made of names, texts, `true`, `false` and `null` can be written down, with its
connectives in special characters or in letters: the parser reads back what is written, however its
connectives are spelled and whatever white space stands around them. -/
theorem parse_written (p : Predicate) (h : p.Expressible) :
    (∀ words, parse (p.text words) = .ok p) ∧
    (∀ words, Spelled p (p.written words)) ∧
    ∀ s, Spelled p s → parse (String.ofList s) = .ok p :=
  ⟨fun words => parse_of_spelled (h.spelled_written words), fun words => h.spelled_written words,
    fun _ => parse_of_spelled⟩

/-- Some of what is hard to read back: a hyphen and a dot in a name, a name that begins with a
keyword, a quotation mark and a backslash in a text. -/
def thorny : Predicate :=
  .or (.compare .contains (.path "not-a.b") (.literal (.str "\"\\'")))
    (.not (.and (.path "$x") (.literal .null)))

theorem parse_written_of_thorny : thorny.Expressible ∧
    thorny.text false = "(not-a.b contains \"\\\"\\\\'\") || (!($x && null))" ∧
    parse (thorny.text false) = .ok thorny ∧
    thorny.text true = "(not-a.b contains \"\\\"\\\\'\") or (not ($x and null))" ∧
    parse (thorny.text true) = .ok thorny ∧
    ∃ s, Spelled thorny s ∧
      String.ofList s = "(not-a.b\tcontains \"\\\"\\\\'\")||(not ($x&& null))" ∧
      parse (String.ofList s) = .ok thorny := by
  have hleft : IsName "not-a.b" := by decide
  have hright : IsName "$x" := by decide
  have h : thorny.Expressible := ⟨⟨hleft, trivial⟩, hright, trivial⟩
  obtain ⟨htext, -, hspelled⟩ := parse_written thorny h
  have hcontains : Joint (.op .contains) ['\t', 'c', 'o', 'n', 't', 'a', 'i', 'n', 's', ' '] :=
    .word (w := "contains") (g := ['\t']) (h := [' ']) rfl (by decide) (by decide) nofun nofun
  have hand : Joint .and ['&', '&', ' '] :=
    .sign (s := "&&") (g := []) (h := [' ']) rfl (by decide) (by decide)
  have hor : Joint .or ['|', '|'] :=
    .sign (s := "||") (g := []) (h := []) rfl (by decide) (by decide)
  have hmixed : Spelled thorny _ :=
    .or (.compare .contains (.path hleft) (.text _) hcontains)
      (.notWord (g := [' ']) (.and (.path hright) .null hand) (by decide) nofun) hor
  exact ⟨h, by decide, htext false, by decide, htext true, _, hmixed, by decide,
    hspelled _ hmixed⟩

end Workflow.Predicate
