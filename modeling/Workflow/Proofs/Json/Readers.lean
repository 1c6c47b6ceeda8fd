import Workflow.Proofs.Json.Legible
import Mathlib.Data.List.Forall2

/-! What typed readers make of values: a statement for each reader, at the front of a text and for a
document that was held back alike. -/
namespace Workflow.Json

open Document (ofJson)

/-- What a value is read from: its text, which may nest so many levels, or a document that was held
back. -/
inductive Source where
  | text (depth : ℕ) (j : Json)
  | held (doc : Document)

namespace Source

/-- The source holds the value. -/
def Gives : Source → Json → Prop
  | text _ i, j => i = j
  | held doc, j => doc = ofJson j

/-- There may be lists and objects in the source. -/
def Nests : Source → Prop
  | text depth _ => depth ≠ 0
  | held _ => True

/-- The source of a value inside a list or an object of the source. -/
def part : Source → Json → Source
  | text depth _, j => text (depth - 1) j
  | held _, j => held (ofJson j)

theorem part_gives (src : Source) (j : Json) : (src.part j).Gives j := by
  cases src <;> rfl

end Source

/-- The reader takes the source for `a`, whatever stands behind it. -/
def Reads {α : Type} (read : Reader α) (a : α) : Source → Prop
  | .text depth j => ∀ rest, Breaks rest → read.ofText depth (j.chars ++ rest) = .ok (a, rest)
  | .held doc => read.ofDocument .held doc = .ok a

section Reads

variable {α β : Type} {read : Reader α} {a : α} {src : Source}

theorem Reads.andThen (h : Reads read a src) {f : α → ReadResult β} {b : β} (hf : f a = .ok b) :
    Reads (read.andThen f) b src := by
  cases src with
  | text depth j =>
    intro rest hrest
    simp only [Reader.andThen, h rest hrest, bind, Except.bind, pure, Except.pure, hf]
  | held doc =>
    unfold Reads at h ⊢
    simp only [Reader.andThen, h, bind, Except.bind, hf]

theorem Reads.map (h : Reads read a src) (f : α → β) : Reads (read.map f) (f a) src :=
  h.andThen rfl

/-! ### Scalars -/

theorem reads_scalar {f : Document → ReadResult α} {j : Json} (hsrc : src.Gives j)
    (hj : ∀ depth, Legible depth j) (hf : f (ofJson j) = .ok a) : Reads (.scalar f) a src := by
  cases src with
  | text depth i =>
    obtain rfl : i = j := hsrc
    intro rest hrest
    -- A value that is legible without nesting is no list and no object.
    have harr : ∀ items, i ≠ .arr items := by
      rintro items rfl
      cases hj 0
    have hobj : ∀ fields, i ≠ .obj fields := by
      rintro fields rfl
      cases hj 0
    simp only [Reader.scalar, Document.readFront_chars (hj depth) harr hobj hrest, scanned,
      Except.mapError, bind, Except.bind, pure, Except.pure, hf]
  | held doc =>
    obtain rfl : doc = ofJson j := hsrc
    exact hf

theorem reads_text {s : String} (hsrc : src.Gives (.str s)) : Reads readText s src :=
  reads_scalar hsrc (fun _ => .str s) rfl

theorem legible_ofNat {bits n depth : ℕ} (hn : n < Nat.pow 2 bits) (hbits : bits ≤ 64) :
    Legible depth (.ofNat n) := by
  have hmono : Nat.pow 2 bits ≤ Nat.pow 2 64 := Nat.pow_le_pow_right (by decide) hbits
  obtain ⟨hl, hg⟩ := Number.natCast_exact_iff.mpr (Nat.lt_of_lt_of_le hn hmono)
  exact .int hl hg

theorem reads_natural {bits n : ℕ} {name : String} (hsrc : src.Gives (.ofNat n))
    (hn : n < Nat.pow 2 bits) (hbits : bits ≤ 64) : Reads (readNatural bits name) n src := by
  refine reads_scalar hsrc (fun depth => legible_ofNat hn hbits) ?_
  show (if 0 ≤ (n : Int) ∧ (n : Int) < Nat.pow 2 bits then _ else _) = _
  rw [if_pos ⟨Int.natCast_nonneg n, by exact_mod_cast hn⟩, Int.toNat_natCast]

/-! ### Names -/

theorem reads_variant {table : List (String × α)} {name : String} (hsrc : src.Gives (.str name))
    (hname : table.lookup name = some a) : Reads (readVariant table) a src := by
  have hvariant : variant table name = .ok a := by
    rw [variant, hname]
  cases src with
  | text depth j =>
    obtain rfl : j = .str name := hsrc
    intro rest hrest
    rw [chars, quoted_append]
    unfold readVariant
    dsimp only
    rw [skipSpace_cons (by rfl)]
    simp only [read_quoted, scanned, Except.mapError, bind, Except.bind, pure, Except.pure,
      hvariant]
  | held doc =>
    obtain rfl : doc = .str name := hsrc
    exact hvariant

/-! ### Values of any kind -/

theorem reads_document {depth : ℕ} {j : Json} (hj : Legible depth j) :
    Reads readDocument (ofJson j) (.text depth j) := by
  intro rest hrest
  simp only [readDocument, Reader.held, Document.read_chars hj hrest, Except.mapError, bind,
    Except.bind, pure, Except.pure]

/-- A number whose text is read as another one is held back as that one. -/
theorem reads_document_num {depth : ℕ} {n m : Number}
    (h : Numeral.readSigned n.text.toList = .ok (m, [])) :
    Reads readDocument (.num m) (.text depth (.num n)) := by
  intro rest hrest
  have hfront : Document.readFront ((Json.num n).chars ++ rest) = .ok (.num m, rest) := by
    rw [chars]
    exact Number.readFront_text h hrest
  have hread : Document.read depth ((Json.num n).chars ++ rest) = .ok (.num m, rest) :=
    Document.readValue_scalar (by simp) (by simp) hfront (by omega)
  simp only [readDocument, Reader.held, hread, Except.mapError, bind, Except.bind, pure,
    Except.pure]

theorem reads_any {depth : ℕ} {j : Json} (hj : Legible depth j) :
    Reads readAny j (.text depth j) := by
  have h := (reads_document hj).map Document.toJson
  rwa [Document.toJson_ofJson hj] at h

theorem reads_any_held {depth : ℕ} {j : Json} (hj : Legible depth j) :
    Reads readAny j (.held (ofJson j)) := by
  show Except.ok (ofJson j).toJson = _
  rw [Document.toJson_ofJson hj]

/-! ### Values that may be absent -/

theorem reads_none (hsrc : src.Gives .null) : Reads (readOption read) none src := by
  cases src with
  | text depth j =>
    obtain rfl : j = .null := hsrc
    intro rest hrest
    simp [readOption, chars, skipSpace_cons, isSpace, keyword, scanned, Except.mapError, bind,
      Except.bind, pure, Except.pure]
  | held doc =>
    obtain rfl : doc = .null := hsrc
    rfl

theorem Reads.some {j : Json} (h : Reads read a src) (hsrc : src.Gives j) (hj : j ≠ .null) :
    Reads (readOption read) (some a) src := by
  cases src with
  | text depth i =>
    obtain rfl : i = j := hsrc
    intro rest hrest
    obtain ⟨c, s, hs, hc⟩ := chars_front i
    have hread := h rest hrest
    rw [hs, List.cons_append] at hread ⊢
    unfold readOption
    dsimp only
    rw [skipSpace_cons hc.not_isSpace]
    split
    · rename_i heq
      exact absurd (hc.eq_null (List.cons.inj heq).1) hj
    · simp only [hread, bind, Except.bind, pure, Except.pure]
  | held doc =>
    obtain rfl : doc = ofJson j := hsrc
    have hdoc : ofJson j ≠ .null := by
      cases j <;> simp [ofJson] at hj ⊢
    unfold Reads at h ⊢
    unfold readOption
    dsimp only
    split
    · rename_i heq
      exact absurd heq hdoc
    · simp only [h, bind, Except.bind, pure, Except.pure]

end Reads

/-! ### Lists -/

section Lists

variable {α : Type} {read : Reader α}

theorem itemsOfText_text {depth : ℕ} {as : List α} {items : List Json}
    (h : List.Forall₂ (fun a item => Reads read a (.text depth item)) as items) (index fuel : ℕ)
    (hfuel : items.length < fuel) (rest : List Char) :
    itemsOfText read depth fuel index (itemsText (index == 0) items ++ rest) =
      .ok (as, ']' :: rest) := by
  induction h generalizing index fuel with
  | nil =>
    obtain ⟨fuel, rfl⟩ : ∃ n, fuel = n + 1 := ⟨fuel - 1, by omega⟩
    rw [itemsOfText, nextItem_nil, itemsText_nil]
    rfl
  | @cons a item as items ha has ih =>
    rw [List.length_cons] at hfuel
    obtain ⟨fuel, rfl⟩ : ∃ n, fuel = n + 1 := ⟨fuel - 1, by omega⟩
    have hfirst := ha (itemsText false items ++ rest) (breaks_itemsText items rest)
    have hmore : itemsOfText read depth fuel (index + 1) (itemsText false items ++ rest) =
        .ok (as, ']' :: rest) := ih (index + 1) fuel (by omega)
    rw [itemsOfText, nextItem_cons]
    simp only [scanned, locate, Except.mapError, bind, Except.bind, pure, Except.pure, hfirst,
      hmore]

theorem itemsOfDocument_held {as : List α} {items : List Json}
    (h : List.Forall₂ (fun a item => Reads read a (.held (ofJson item))) as items) (index : ℕ) :
    itemsOfDocument read .held index (Document.ofItems items) = .ok as := by
  induction h generalizing index with
  | nil => rfl
  | @cons a item as items ha has ih =>
    rw [Document.ofItems, itemsOfDocument]
    have hfirst : read.ofDocument .held (ofJson item) = .ok a := ha
    simp only [Origin.locate, if_true, bind, Except.bind, pure, Except.pure, hfirst, ih]

theorem length_le_itemsText (first : Bool) (items : List Json) :
    items.length ≤ (itemsText first items).length := by
  induction items generalizing first with
  | nil => simp
  | cons x xs ih =>
    have hlen := length_itemsText_cons first x xs
    have hpos := length_chars_pos x
    have hxs := ih false
    rw [List.length_cons]
    omega

theorem reads_list {src : Source} {as : List α} {items : List Json}
    (hsrc : src.Gives (.arr items)) (hnests : src.Nests)
    (h : List.Forall₂ (fun a item => Reads read a (src.part item)) as items) :
    Reads (readList read) as src := by
  cases src with
  | text depth j =>
    obtain rfl : j = .arr items := hsrc
    obtain ⟨depth, rfl⟩ : ∃ n, depth = n + 1 := ⟨depth - 1, by unfold Source.Nests at hnests; omega⟩
    intro rest hrest
    have hlen := length_le_itemsText true items
    have hitems : itemsOfText read depth _ 0 (itemsText true items ++ rest) =
        .ok (as, ']' :: rest) :=
      itemsOfText_text h 0 (('[' :: (itemsText true items ++ rest)).length + 1)
        (by simp only [List.length_cons, List.length_append]; omega) rest
    rw [chars_arr, List.cons_append]
    unfold readList
    dsimp only
    rw [skipSpace_cons (by rfl)]
    simp only [Document.nest, scanned, Except.mapError, bind, Except.bind, pure, Except.pure,
      hitems,
      endOfList_cons]
  | held doc =>
    obtain rfl : doc = ofJson (.arr items) := hsrc
    exact itemsOfDocument_held h 0

theorem legible_ofStrings {depth : ℕ} (ss : List String) : Legible (depth + 1) (.ofStrings ss) := by
  refine .arr fun item hitem => ?_
  obtain ⟨s, -, rfl⟩ := List.mem_map.mp hitem
  exact .str s

/-- A list of texts. -/
theorem reads_texts {src : Source} {ss : List String} (hsrc : src.Gives (.ofStrings ss))
    (hnests : src.Nests) : Reads (readList readText) ss src := by
  refine reads_list hsrc hnests ?_
  rw [List.forall₂_map_right_iff]
  exact List.forall₂_same.mpr fun s _ => reads_text (src.part_gives _)

end Lists

/-! ### Maps -/

section Maps

variable {α : Type} {read : Reader α} {encode : α → Json}

/-- Pairs under their keys, as an object writes them. -/
def encodePairs (encode : α → Json) (pairs : List (String × α)) : Fields :=
  pairs.map fun p => (p.1, encode p.2)

theorem legible_encodePairs {depth : ℕ} {pairs : List (String × α)}
    (hs : pairs.Pairwise fun p q => p.1 < q.1) (h : ∀ p ∈ pairs, Legible depth (encode p.2)) :
    Legible (depth + 1) (.obj (encodePairs encode pairs)) := by
  refine .obj (List.pairwise_map.mpr hs) fun kv hkv => ?_
  obtain ⟨p, hp, rfl⟩ := List.mem_map.mp hkv
  exact h p hp

theorem pairsOfText_text {depth : ℕ} {pairs before : List (String × α)}
    (h : ∀ p ∈ pairs, Reads read p.2 (.text depth (encode p.2)))
    (hs : (before ++ pairs).Pairwise fun p q => p.1 < q.1) (first : Bool) (fuel : ℕ)
    (hfuel : pairs.length < fuel) (rest : List Char) :
    pairsOfText read depth fuel first (fieldsText first (encodePairs encode pairs) ++ rest) before =
      .ok (before ++ pairs, '\x7d' :: rest) := by
  induction pairs generalizing before first fuel with
  | nil =>
    obtain ⟨fuel, rfl⟩ : ∃ n, fuel = n + 1 := ⟨fuel - 1, by omega⟩
    rw [pairsOfText, keyOfText, encodePairs, List.map_nil, nextKey_nil, fieldsText_nil]
    simp only [scanned, locate, Except.mapError, bind, Except.bind, pure, Except.pure,
      List.append_nil, List.singleton_append]
  | cons p pairs ih =>
    rw [List.length_cons] at hfuel
    obtain ⟨fuel, rfl⟩ : ∃ n, fuel = n + 1 := ⟨fuel - 1, by omega⟩
    have hvalue := h p List.mem_cons_self (fieldsText false (encodePairs encode pairs) ++ rest)
      (breaks_fieldsText _ rest)
    have hlast : insertPair before p.1 p.2 = before ++ [p] :=
      insertPair_append p.2 fun q hq =>
        (List.pairwise_append.mp hs).2.2 q hq p List.mem_cons_self
    have hsplit : before ++ p :: pairs = before ++ [p] ++ pairs := by simp
    rw [hsplit] at hs ⊢
    have hmore := ih (fun q hq => h q (List.mem_cons_of_mem p hq)) hs false fuel (by omega)
    rw [pairsOfText, keyOfText, encodePairs, List.map_cons, nextKey_cons]
    unfold encodePairs at hvalue hmore
    simp only [valueOfText, scanned, locate, Except.mapError, bind, Except.bind, colon_cons, hvalue,
      hlast, hmore]

theorem foldlM_pairs {pairs before : List (String × α)}
    (h : ∀ p ∈ pairs, Reads read p.2 (.held (ofJson (encode p.2))))
    (hs : (before ++ pairs).Pairwise fun p q => p.1 < q.1) :
    (Document.ofFields (encodePairs encode pairs)).foldlM (fun pairs (k, d) => do
      return insertPair pairs k (← Origin.held.locate [.member k] (read.ofDocument .held d)))
      before = (.ok (before ++ pairs) : ReadResult (List (String × α))) := by
  induction pairs generalizing before with
  | nil =>
    rw [List.append_nil]
    rfl
  | cons p pairs ih =>
    have hvalue : read.ofDocument .held (ofJson (encode p.2)) = .ok p.2 := h p List.mem_cons_self
    have hlast : insertPair before p.1 p.2 = before ++ [p] :=
      insertPair_append p.2 fun q hq =>
        (List.pairwise_append.mp hs).2.2 q hq p List.mem_cons_self
    have hsplit : before ++ p :: pairs = before ++ [p] ++ pairs := by simp
    rw [hsplit] at hs ⊢
    have hmore := ih (fun q hq => h q (List.mem_cons_of_mem p hq)) hs
    rw [← hmore, encodePairs, List.map_cons, Document.ofFields, List.foldlM_cons]
    simp only [Origin.locate, if_true, bind, Except.bind, pure, Except.pure, hvalue, hlast]
    rfl

theorem length_le_fieldsText (first : Bool) (fields : Fields) :
    fields.length ≤ (fieldsText first fields).length := by
  induction fields generalizing first with
  | nil => simp
  | cons kv fields ih =>
    obtain ⟨k, v⟩ := kv
    have hlen := length_fieldsText_cons first k v fields
    have hfields := ih false
    rw [List.length_cons]
    omega

theorem reads_map {src : Source} {pairs : List (String × α)}
    (hsrc : src.Gives (.obj (encodePairs encode pairs))) (hnests : src.Nests)
    (hs : pairs.Pairwise fun p q => p.1 < q.1)
    (h : ∀ p ∈ pairs, Reads read p.2 (src.part (encode p.2))) :
    Reads (readMap read) pairs src := by
  cases src with
  | text depth j =>
    obtain rfl : j = .obj (encodePairs encode pairs) := hsrc
    obtain ⟨depth, rfl⟩ : ∃ n, depth = n + 1 := ⟨depth - 1, by unfold Source.Nests at hnests; omega⟩
    intro rest hrest
    have hlen := length_le_fieldsText true (encodePairs encode pairs)
    have hpairs : pairsOfText read depth _ true
        (fieldsText true (encodePairs encode pairs) ++ rest) [] = .ok (pairs, '\x7d' :: rest) :=
      pairsOfText_text h (by rwa [List.nil_append]) true
        (('\x7b' :: (fieldsText true (encodePairs encode pairs) ++ rest)).length + 1)
        (by
          simp only [List.length_cons, List.length_append]
          simp only [encodePairs, List.length_map] at hlen ⊢
          omega) rest
    rw [chars_obj, List.cons_append]
    unfold readMap
    dsimp only
    rw [skipSpace_cons (by rfl)]
    simp only [Document.nest, scanned, Except.mapError, bind, Except.bind, pure, Except.pure,
      hpairs, endOfObject_cons]
  | held doc =>
    obtain rfl : doc = ofJson (.obj (encodePairs encode pairs)) := hsrc
    exact foldlM_pairs h (by rwa [List.nil_append])

end Maps

/-- The whole text of a value. -/
theorem Reads.readWhole {α : Type} {read : Reader α} {a : α} {j : Json}
    (h : Reads read a (.text nestingLimit j)) : readWhole read j.text = .ok a := by
  have hread := h [] breaks_nil
  rw [List.append_nil] at hread
  unfold Json.readWhole
  rw [text, String.toList_ofList, hread]
  rfl

end Workflow.Json
