import Workflow.Json.Reading
import Workflow.Proofs.Json.Fields
import Workflow.Proofs.Json.Numeral
import Workflow.Proofs.Json.Quoted

/-! Values in texts: what a value of the right form is written as is read back as the document of
the value, whatever stands behind it, and the document denotes the value. -/
namespace Workflow.Json

/-- A value of so many levels at the most: the members of its objects are in the order of their
keys, its integers are in the exact range, and its other numbers are as `good` says. -/
inductive Within (good : Binary → Prop) : ℕ → Json → Prop
  | null {depth : ℕ} : Within good depth .null
  | bool {depth : ℕ} (value : Bool) : Within good depth (.bool value)
  | int {depth : ℕ} {value : Int} (hl : Number.exactLeast ≤ value)
    (hg : value ≤ Number.exactGreatest) : Within good depth (.num (.int value))
  | real {depth : ℕ} {value : Binary} (h : good value) : Within good depth (.num (.real value))
  | str {depth : ℕ} (value : String) : Within good depth (.str value)
  | arr {depth : ℕ} {items : List Json} (h : ∀ item ∈ items, Within good depth item) :
    Within good (depth + 1) (.arr items)
  | obj {depth : ℕ} {fields : Fields} (hs : fields.Sorted)
    (h : ∀ kv ∈ fields, Within good depth kv.2) : Within good (depth + 1) (.obj fields)

/-- A value of so many levels at the most, whatever its numbers are. -/
abbrev Fits : ℕ → Json → Prop := Within fun _ => True

/-- A value of so many levels at the most whose numbers are read back from their texts. -/
abbrev Legible : ℕ → Json → Prop := Within fun x => (Number.real x).ReadsBack

mutual
/-- The numbers of a value that are no integers. -/
def reals : Json → List Binary
  | .null | .bool _ | .str _ | .num (.int _) => []
  | .num (.real x) => [x]
  | .arr items => realsOfItems items
  | .obj fields => realsOfFields fields
def realsOfItems : List Json → List Binary
  | [] => []
  | item :: items => reals item ++ realsOfItems items
def realsOfFields : List (String × Json) → List Binary
  | [] => []
  | (_, value) :: fields => reals value ++ realsOfFields fields
end

theorem reals_of_mem_items {items : List Json} {item : Json} (h : item ∈ items) :
    ∀ x ∈ item.reals, x ∈ realsOfItems items := by
  induction items with
  | nil => cases h
  | cons first items ih =>
    intro x hx
    rw [realsOfItems, List.mem_append]
    rcases List.mem_cons.mp h with rfl | h
    · exact Or.inl hx
    · exact Or.inr (ih h x hx)

theorem reals_of_mem_fields {fields : Fields} {kv : String × Json} (h : kv ∈ fields) :
    ∀ x ∈ kv.2.reals, x ∈ realsOfFields fields := by
  induction fields with
  | nil => cases h
  | cons first fields ih =>
    intro x hx
    rw [realsOfFields, List.mem_append]
    rcases List.mem_cons.mp h with rfl | h
    · exact Or.inl hx
    · exact Or.inr (ih h x hx)

/-- All that has to be known of the numbers of a value is how each of them is. -/
theorem Within.of_reals {good fine : Binary → Prop} {depth : ℕ} {j : Json}
    (h : Within good depth j) (hfine : ∀ x ∈ j.reals, fine x) : Within fine depth j := by
  induction h with
  | null => exact .null
  | bool value => exact .bool value
  | int hl hg => exact .int hl hg
  | real _ => exact .real (hfine _ (by simp [reals]))
  | str value => exact .str value
  | arr _ ih =>
    rw [reals] at hfine
    exact .arr fun item hitem =>
      ih item hitem fun x hx => hfine x (reals_of_mem_items hitem x hx)
  | obj hs _ ih =>
    rw [reals] at hfine
    exact .obj hs fun kv hkv => ih kv hkv fun x hx => hfine x (reals_of_mem_fields hkv x hx)

/-- A list of a list and so on, of so many levels. -/
def nested : ℕ → Json
  | 0 => .null
  | depth + 1 => .arr [nested depth]

/-! ### What stands where -/

/-- The first character of the text of a value. -/
structure Opens (j : Json) (c : Char) : Prop where
  not_isSpace : isSpace c = false
  ne_bracket : c ≠ ']'
  eq_null : c = 'n' → j = .null
  eq_arr : c = '[' → ∃ items, j = .arr items
  eq_obj : c = '\x7b' → ∃ fields, j = .obj fields

theorem Opens.of_ne {j : Json} {c : Char} (hspace : isSpace c = false)
    (hne : c ≠ ']' ∧ c ≠ 'n' ∧ c ≠ '[' ∧ c ≠ '\x7b') : Opens j c :=
  ⟨hspace, hne.1, fun h => absurd h hne.2.1, fun h => absurd h hne.2.2.1,
    fun h => absurd h hne.2.2.2⟩

theorem StartsNumber.opens {c : Char} (h : StartsNumber c) (j : Json) : Opens j c := by
  refine .of_ne h.not_isSpace ⟨?_, ?_, ?_, ?_⟩ <;>
    (rintro rfl; rcases h with h | h <;> exact absurd h (by decide))

theorem chars_front (j : Json) : ∃ c s, j.chars = c :: s ∧ Opens j c := by
  cases j with
  | null =>
    exact ⟨'n', _, rfl, rfl, by decide, fun _ => rfl, fun h => absurd h (by decide),
      fun h => absurd h (by decide)⟩
  | bool value =>
    cases value with
    | true => exact ⟨'t', _, rfl, .of_ne rfl (by decide)⟩
    | false => exact ⟨'f', _, rfl, .of_ne rfl (by decide)⟩
  | num value =>
    obtain ⟨c, s, hs, hc⟩ := value.text_front
    exact ⟨c, s, by rw [chars, hs], hc.opens _⟩
  | str value =>
    exact ⟨'"', _, by rw [chars, quoted]; rfl, .of_ne rfl (by decide)⟩
  | arr items =>
    refine ⟨'[', (Json.arr items).chars.tail, ?_, rfl, by decide, fun h => absurd h (by decide),
      fun _ => ⟨items, rfl⟩, fun h => absurd h (by decide)⟩
    cases items <;> simp [chars]
  | obj fields =>
    refine ⟨'\x7b', (Json.obj fields).chars.tail, ?_, rfl, by decide,
      fun h => absurd h (by decide), fun h => absurd h (by decide), fun _ => ⟨fields, rfl⟩⟩
    rcases fields with _ | ⟨⟨k, v⟩, rest⟩ <;> simp [chars]

/-- The items of a list up to its end, from behind its bracket or from behind an item. -/
def itemsText : Bool → List Json → List Char
  | true, x :: xs => chars x ++ itemsChars xs
  | _, xs => itemsChars xs

/-- The members of an object up to its end, from behind its brace or from behind a member. -/
def fieldsText : Bool → List (String × Json) → List Char
  | true, (k, v) :: fields => quoted k ++ ':' :: chars v ++ fieldsChars fields
  | _, fields => fieldsChars fields

theorem chars_arr (items : List Json) : (Json.arr items).chars = '[' :: itemsText true items := by
  cases items <;> simp [chars, itemsText, itemsChars]

theorem chars_obj (fields : List (String × Json)) :
    (Json.obj fields).chars = '\x7b' :: fieldsText true fields := by
  rcases fields with _ | ⟨⟨k, v⟩, rest⟩ <;> simp [chars, fieldsText, fieldsChars]

theorem itemsText_nil (first : Bool) : itemsText first [] = [']'] := by
  cases first <;> simp [itemsText, itemsChars]

theorem fieldsText_nil (first : Bool) : fieldsText first [] = ['\x7d'] := by
  cases first <;> simp [fieldsText, fieldsChars]

theorem breaks_itemsText (xs : List Json) (rest : List Char) :
    Breaks (itemsText false xs ++ rest) := by
  cases xs with
  | nil =>
    rw [itemsText_nil]
    exact breaks_cons (Or.inr (Or.inl rfl)) rest
  | cons x xs =>
    simp only [itemsText, itemsChars, List.cons_append]
    exact breaks_cons (Or.inl rfl) _

theorem breaks_fieldsText (fields : List (String × Json)) (rest : List Char) :
    Breaks (fieldsText false fields ++ rest) := by
  rcases fields with _ | ⟨⟨k, v⟩, fields⟩
  · rw [fieldsText_nil]
    exact breaks_cons (Or.inr (Or.inr rfl)) rest
  · simp only [fieldsText, fieldsChars, List.cons_append]
    exact breaks_cons (Or.inl rfl) _

theorem nextItem_nil (first : Bool) (rest : List Char) :
    nextItem first (itemsText first [] ++ rest) = .ok none := by
  rw [itemsText_nil, List.singleton_append, nextItem, skipSpace_cons (by rfl)]
  rfl

theorem nextItem_cons (first : Bool) (x : Json) (xs : List Json) (rest : List Char) :
    nextItem first (itemsText first (x :: xs) ++ rest) =
      .ok (some (x.chars ++ (itemsText false xs ++ rest))) := by
  obtain ⟨c, s, hs, hc⟩ := chars_front x
  cases first with
  | true =>
    simp only [itemsText, hs, List.cons_append, List.append_assoc]
    rw [nextItem, skipSpace_cons hc.not_isSpace]
    split
    · rename_i heq
      cases heq
    · rename_i heq
      exact absurd (List.cons.inj heq).1 hc.ne_bracket
    · rename_i heq
      cases heq
      rfl
  | false =>
    simp only [itemsText, itemsChars, hs, List.cons_append, List.append_assoc]
    rw [nextItem, skipSpace_cons (by rfl)]
    split
    · rename_i heq
      cases heq
    · rename_i heq
      exact absurd (List.cons.inj heq).1 (by decide)
    rename_i heq
    cases heq
    rw [if_neg Bool.false_ne_true, if_pos rfl, skipSpace_cons hc.not_isSpace]
    split
    · rename_i heq
      cases heq
    · rename_i heq
      exact absurd (List.cons.inj heq).1 hc.ne_bracket
    · rfl

theorem nextKey_nil (first : Bool) (rest : List Char) :
    nextKey first (fieldsText first [] ++ rest) = .ok none := by
  rw [fieldsText_nil, List.singleton_append, nextKey, skipSpace_cons (by rfl)]
  rfl

theorem nextKey_cons (first : Bool) (k : String) (v : Json) (fields : List (String × Json))
    (rest : List Char) : nextKey first (fieldsText first ((k, v) :: fields) ++ rest) =
      .ok (some (k, ':' :: (v.chars ++ (fieldsText false fields ++ rest)))) := by
  cases first with
  | true =>
    simp only [fieldsText, List.append_assoc, List.cons_append, quoted_append]
    show (Quotation.read _).map some = _
    rw [read_quoted]
    rfl
  | false =>
    simp only [fieldsText, fieldsChars, List.append_assoc, List.cons_append, quoted_append]
    show (Quotation.read _).map some = _
    rw [read_quoted]
    rfl

theorem colon_cons (s : List Char) : colon (':' :: s) = .ok s := by
  rw [colon, skipSpace_cons (by rfl)]
  rfl

theorem endOfList_cons (s : List Char) : endOfList (']' :: s) = .ok s := by
  rw [endOfList, skipSpace_cons (by rfl)]
  rfl

theorem endOfObject_cons (s : List Char) : endOfObject ('\x7d' :: s) = .ok s := by
  rw [endOfObject, skipSpace_cons (by rfl)]
  rfl

/-! ### Reading values -/

theorem length_chars_pos (j : Json) : 0 < j.chars.length := by
  obtain ⟨c, s, hs, -⟩ := chars_front j
  simp [hs]

theorem length_itemsText_cons (first : Bool) (x : Json) (xs : List Json) :
    x.chars.length + (itemsText false xs).length ≤ (itemsText first (x :: xs)).length := by
  cases first <;> simp [itemsText, itemsChars]

theorem length_fieldsText_cons (first : Bool) (k : String) (v : Json) (fields : Fields) :
    1 + v.chars.length + (fieldsText false fields).length ≤
      (fieldsText first ((k, v) :: fields)).length := by
  cases first <;> simp [fieldsText, fieldsChars] <;> omega

theorem length_itemsText_pos (first : Bool) (xs : List Json) :
    0 < (itemsText first xs).length := by
  cases xs with
  | nil => simp [itemsText_nil]
  | cons x xs =>
    have hlen := length_itemsText_cons first x xs
    have hpos := length_chars_pos x
    omega

theorem length_fieldsText_pos (first : Bool) (fields : Fields) :
    0 < (fieldsText first fields).length := by
  rcases fields with _ | ⟨⟨k, v⟩, fields⟩
  · simp [fieldsText_nil]
  · have hlen := length_fieldsText_cons first k v fields
    omega

namespace Document

/-- The text of a scalar is read at once. -/
theorem readFront_chars {depth : ℕ} {j : Json} (h : Legible depth j)
    (harr : ∀ items, j ≠ .arr items) (hobj : ∀ fields, j ≠ .obj fields) {rest : List Char}
    (hrest : Breaks rest) : readFront (j.chars ++ rest) = .ok (ofJson j, rest) := by
  cases h with
  | null => simp [chars, readFront, skipSpace_cons, isSpace, keyword, ofJson, Except.map]
  | bool value =>
    cases value <;> simp [chars, readFront, skipSpace_cons, isSpace, keyword, ofJson, Except.map]
  | int hl hg => exact Number.readFront_text (Number.readsBack_int hl hg) hrest
  | real hreal => exact Number.readFront_text hreal hrest
  | str value =>
    rw [chars, quoted_append]
    show (Quotation.read _).map _ = _
    rw [read_quoted]
    rfl
  | arr h => exact absurd rfl (harr _)
  | obj hs h => exact absurd rfl (hobj _)

/-- The text of the value, with anything behind it, is read as the document of the value. -/
def ReadsValue (depth : ℕ) (j : Json) : Prop :=
  ∀ fuel rest, 2 * j.chars.length ≤ fuel → Breaks rest →
    readValue fuel depth (j.chars ++ rest) = .ok (ofJson j, rest)

variable {depth : ℕ}

theorem readValue_scalar {j : Json} (harr : ∀ items, j ≠ .arr items)
    (hobj : ∀ fields, j ≠ .obj fields) {doc : Document} {rest : List Char}
    (hfront : readFront (j.chars ++ rest) = .ok (doc, rest)) {fuel : ℕ} (hfuel : 0 < fuel) :
    readValue fuel depth (j.chars ++ rest) = .ok (doc, rest) := by
  obtain ⟨c, s, hs, hc⟩ := chars_front j
  obtain ⟨fuel, rfl⟩ : ∃ n, fuel = n + 1 := ⟨fuel - 1, by omega⟩
  rw [hs, List.cons_append] at hfront ⊢
  rw [readValue, skipSpace_cons hc.not_isSpace]
  split
  · rename_i heq
    obtain ⟨items, hitems⟩ := hc.eq_arr (List.cons.inj heq).1
    exact absurd hitems (harr items)
  · rename_i heq
    obtain ⟨fields, hfields⟩ := hc.eq_obj (List.cons.inj heq).1
    exact absurd hfields (hobj fields)
  · rw [hfront]
    rfl

theorem readsValue_scalar {j : Json} (hj : Legible depth j) (harr : ∀ items, j ≠ .arr items)
    (hobj : ∀ fields, j ≠ .obj fields) : ReadsValue depth j := by
  intro fuel rest hfuel hrest
  have hpos := length_chars_pos j
  exact readValue_scalar harr hobj (readFront_chars hj harr hobj hrest) (by omega)

theorem readItems_text {items : List Json} (h : ∀ item ∈ items, ReadsValue depth item)
    (index fuel : ℕ) (hfuel : 2 * (itemsText (index == 0) items).length ≤ fuel)
    (rest : List Char) : readItems fuel depth index (itemsText (index == 0) items ++ rest) =
      .ok (ofItems items, ']' :: rest) := by
  induction items generalizing index fuel with
  | nil =>
    rw [itemsText_nil] at hfuel
    obtain ⟨fuel, rfl⟩ : ∃ n, fuel = n + 1 := ⟨fuel - 1, by simp at hfuel; omega⟩
    rw [readItems, nextItem_nil, itemsText_nil]
    rfl
  | cons x xs ih =>
    have hlen := length_itemsText_cons (index == 0) x xs
    have hx := length_chars_pos x
    have hxs := length_itemsText_pos false xs
    obtain ⟨fuel, rfl⟩ : ∃ n, fuel = n + 1 := ⟨fuel - 1, by omega⟩
    have hfirst := h x List.mem_cons_self fuel (itemsText false xs ++ rest) (by omega)
      (breaks_itemsText xs rest)
    have hmore : readItems fuel depth (index + 1) (itemsText false xs ++ rest) =
        .ok (ofItems xs, ']' :: rest) :=
      ih (fun item hi => h item (List.mem_cons_of_mem x hi)) (index + 1) fuel
        (by show 2 * (itemsText false xs).length ≤ fuel; omega)
    rw [readItems, nextItem_cons]
    simp only [atOnce, Except.mapError, bind, Except.bind, pure, Except.pure, hfirst, hmore,
      ofItems]

theorem readFields_text {fields : Fields} (h : ∀ kv ∈ fields, ReadsValue depth kv.2)
    (first : Bool) (fuel : ℕ) (hfuel : 2 * (fieldsText first fields).length ≤ fuel)
    (rest : List Char) : readFields fuel depth first (fieldsText first fields ++ rest) =
      .ok (ofFields fields, '\x7d' :: rest) := by
  induction fields generalizing first fuel with
  | nil =>
    rw [fieldsText_nil] at hfuel
    obtain ⟨fuel, rfl⟩ : ∃ n, fuel = n + 1 := ⟨fuel - 1, by simp at hfuel; omega⟩
    rw [readFields, nextKey_nil, fieldsText_nil]
    rfl
  | cons kv fields ih =>
    obtain ⟨k, v⟩ := kv
    have hlen := length_fieldsText_cons first k v fields
    have hpos := length_fieldsText_pos false fields
    obtain ⟨fuel, rfl⟩ : ∃ n, fuel = n + 1 := ⟨fuel - 1, by omega⟩
    have hvalue : readValue fuel depth (v.chars ++ (fieldsText false fields ++ rest)) =
        .ok (ofJson v, fieldsText false fields ++ rest) :=
      h (k, v) List.mem_cons_self fuel _ (by show 2 * v.chars.length ≤ fuel; omega)
        (breaks_fieldsText fields rest)
    have hmore := ih (fun kv hkv => h kv (List.mem_cons_of_mem _ hkv)) false fuel (by omega)
    rw [readFields, nextKey_cons]
    simp only [atOnce, Except.mapError, bind, Except.bind, pure, Except.pure, colon_cons, hvalue,
      hmore, ofFields]

/-- An object is read back with its members in the order in which they are written. -/
theorem readsValue_obj {fields : Fields} (h : ∀ kv ∈ fields, ReadsValue depth kv.2) :
    ReadsValue (depth + 1) (.obj fields) := by
  intro fuel rest hfuel hrest
  rw [chars_obj, List.length_cons] at hfuel
  obtain ⟨fuel, rfl⟩ : ∃ n, fuel = n + 1 := ⟨fuel - 1, by omega⟩
  have hfields := readFields_text h true fuel (by omega) rest
  rw [chars_obj, List.cons_append, readValue, skipSpace_cons (by rfl)]
  simp only [nest, atOnce, Except.mapError, bind, Except.bind, pure, Except.pure, ofJson,
    hfields, endOfObject_cons]

/-- A legible value is read back from its text as it was. -/
theorem readsValue {j : Json} (h : Legible depth j) : ReadsValue depth j := by
  induction h with
  | null => exact readsValue_scalar .null (by simp) (by simp)
  | bool value => exact readsValue_scalar (.bool value) (by simp) (by simp)
  | int hl hg => exact readsValue_scalar (.int hl hg) (by simp) (by simp)
  | real hreal => exact readsValue_scalar (.real hreal) (by simp) (by simp)
  | str value => exact readsValue_scalar (.str value) (by simp) (by simp)
  | @arr depth items h ih =>
    -- The bracket pays for the fuel that goes from the list to its items.
    intro fuel rest hfuel hrest
    rw [chars_arr, List.length_cons] at hfuel
    obtain ⟨fuel, rfl⟩ : ∃ n, fuel = n + 1 := ⟨fuel - 1, by omega⟩
    have hitems := readItems_text ih 0 fuel (by show 2 * (itemsText true items).length ≤ _; omega)
      rest
    rw [chars_arr, List.cons_append, readValue, skipSpace_cons (by rfl)]
    simp only [nest, atOnce, Except.mapError, bind, Except.bind, pure, Except.pure, ofJson]
    rw [show itemsText true items = itemsText (0 == 0) items from rfl, hitems]
    simp only [endOfList_cons]
  | obj hs h ih => exact readsValue_obj ih

theorem read_chars {j : Json} (h : Legible depth j) {rest : List Char} (hrest : Breaks rest) :
    read depth (j.chars ++ rest) = .ok (ofJson j, rest) :=
  readsValue h _ rest (by rw [List.length_append]; omega) hrest

end Document

/-! ### The value of a document -/

theorem insertPair_append {α : Type} {pairs : List (String × α)} {key : String} (a : α)
    (h : ∀ p ∈ pairs, p.1 < key) : insertPair pairs key a = pairs ++ [(key, a)] := by
  induction pairs with
  | nil => rfl
  | cons p pairs ih =>
    have hlt := h p List.mem_cons_self
    rw [insertPair, if_neg (String.lt_asymm hlt), if_neg (String.ne_of_lt hlt).symm,
      ih fun q hq => h q (List.mem_cons_of_mem p hq)]
    rfl

theorem Fields.insert_eq_insertPair (fields : Fields) (key : String) (value : Json) :
    Fields.insert fields key value = insertPair fields key value := by
  induction fields with
  | nil => rfl
  | cons kv fields ih => rw [Fields.insert, insertPair, ih]

/-- Members in the order of their keys are kept as they are. -/
theorem Fields.ofList_of_sorted {fields : Fields} (h : fields.Sorted) :
    Fields.ofList fields = fields := by
  unfold Fields.ofList
  induction fields using List.reverseRecOn with
  | nil => rfl
  | append_singleton fields kv ih =>
    rw [Fields.Sorted, List.pairwise_append] at h
    rw [List.foldl_append, ih h.1]
    dsimp only [List.foldl_cons, List.foldl_nil]
    rw [Fields.insert_eq_insertPair]
    exact insertPair_append kv.2 fun x hx => h.2.2 x hx kv (List.mem_singleton_self kv)

theorem Document.fieldsToJson_ofFields {fields : Fields}
    (h : ∀ kv ∈ fields, (ofJson kv.2).toJson = kv.2) : fieldsToJson (ofFields fields) = fields := by
  induction fields with
  | nil => rfl
  | cons kv fields ih =>
    obtain ⟨k, v⟩ := kv
    rw [ofFields, fieldsToJson, h (k, v) List.mem_cons_self,
      ih fun kv hkv => h kv (List.mem_cons_of_mem _ hkv)]

/-- The document of a value denotes the value. -/
theorem Document.toJson_ofJson {good : Binary → Prop} {depth : ℕ} {j : Json}
    (h : Within good depth j) : (ofJson j).toJson = j := by
  induction h with
  | null => rfl
  | bool value => rfl
  | int hl hg => rfl
  | real h => rfl
  | str value => rfl
  | @arr depth items h ih =>
    have hitems : itemsToJson (ofItems items) = items := by
      clear h
      induction items with
      | nil => rfl
      | cons x xs ihx =>
        rw [ofItems, itemsToJson, ih x List.mem_cons_self,
          ihx fun item hi => ih item (List.mem_cons_of_mem x hi)]
    rw [ofJson, toJson, hitems]
  | @obj depth fields hs h ih =>
    rw [ofJson, toJson, fieldsToJson_ofFields ih, ofPairs, Fields.ofList_of_sorted hs]

/-- A text of legible members is read as the object of these, in whatever order they are written. -/
theorem parse_text_obj {fields : Fields} (h : ∀ kv ∈ fields, Legible 126 kv.2) :
    parse (Json.obj fields).text = .ok (.ofPairs fields) := by
  have hdoc : (Document.ofJson (.obj fields)).toJson = .ofPairs fields := by
    rw [Document.ofJson, Document.toJson,
      Document.fieldsToJson_ofFields fun kv hkv => Document.toJson_ofJson (h kv hkv)]
  have hread : Document.readValue (2 * (Json.obj fields).chars.length + 2) 127
      ((Json.obj fields).chars ++ []) = .ok (Document.ofJson (.obj fields), []) :=
    Document.readsValue_obj (fun kv hkv => Document.readsValue (h kv hkv)) _ []
      (Nat.le_add_right _ 2) breaks_nil
  rw [List.append_nil] at hread
  rw [parse, text, String.toList_ofList, parseWithin, Document.read, nestingLimit, hread, ← hdoc]
  rfl

/-! ### The characters of a text -/

/-- There are no control characters, and so no line ends, in the text. -/
def Clean (s : List Char) : Prop := ∀ c ∈ s, 32 ≤ c.toNat

theorem clean_nil : Clean [] := fun _ h => absurd h List.not_mem_nil

theorem clean_cons {c : Char} {s : List Char} : Clean (c :: s) ↔ 32 ≤ c.toNat ∧ Clean s :=
  List.forall_mem_cons

theorem clean_append {s t : List Char} : Clean (s ++ t) ↔ Clean s ∧ Clean t :=
  List.forall_mem_append

theorem Clean.newline_not_mem {s : List Char} (h : Clean s) : '\n' ∉ s :=
  fun hmem => absurd (h _ hmem) (by decide)

theorem Clean.of_subset {s t : List Char} (h : Clean t) (hs : s ⊆ t) : Clean s :=
  fun c hc => h c (hs hc)

theorem clean_replicate {c : Char} (hc : 32 ≤ c.toNat) (n : ℕ) : Clean (List.replicate n c) :=
  fun _ hd => List.eq_of_mem_replicate hd ▸ hc

theorem clean_repr (n : ℕ) : Clean (Nat.repr n).toList := by
  intro c hc
  rw [Nat.toList_repr] at hc
  have hdigit := Nat.isDigit_of_mem_toDigits (by decide) (by decide) hc
  have hcode : 48 ≤ c.toNat ∧ c.toNat ≤ 57 := Char.isDigit_iff_toNat.mp hdigit
  omega

theorem clean_positional {ds : List Char} (h : Clean ds) (point : Int) :
    Clean (Decimal.positional ds point) := by
  unfold Decimal.positional
  dsimp only
  split
  · simp [clean_append, clean_cons, clean_replicate, h]
  split
  · simp [clean_append, clean_cons, clean_nil, clean_replicate, h]
  · simp only [clean_append, clean_cons]
    exact ⟨h.of_subset (List.take_subset _ _), by decide, h.of_subset (List.drop_subset _ _)⟩

theorem clean_scientific (l : Decimal.Layout) {ds : List Char} (h : Clean ds) (point : Int) :
    Clean (Decimal.scientific l ds point) := by
  have hexponent := clean_repr (point - 1).natAbs
  have hsign : Clean (if point - 1 < 0 then ['-'] else if l.plus then ['+'] else []) := by
    split
    · simp [clean_cons, clean_nil]
    · split <;> simp [clean_cons, clean_nil]
  unfold Decimal.scientific
  simp only [clean_append, clean_cons]
  refine ⟨⟨?_, by decide, hsign⟩, hexponent⟩
  rcases ds with _ | ⟨d, _ | ⟨e, ds⟩⟩
  · simp [clean_cons, clean_nil]
  · exact h
  · simp only [clean_cons] at h ⊢
    exact ⟨h.1, by decide, h.2⟩

theorem clean_number (n : Number) : Clean n.text.toList := by
  cases n with
  | int n =>
    cases n with
    | ofNat k => exact clean_repr k
    | negSucc k =>
      have htext : (Number.int (Int.negSucc k)).text.toList = '-' :: (Nat.repr (k + 1)).toList := by
        simp [Number.text, toString, Int.repr]
      rw [htext]
      exact clean_cons.mpr ⟨by decide, clean_repr _⟩
  | real x =>
    have hbody : Clean ((x.shortest .double).render Number.layout) := by
      have hdigits := clean_repr (x.shortest .double).digits
      unfold Decimal.render
      dsimp only
      split
      · simp [clean_cons, clean_nil]
      split
      · exact clean_positional hdigits _
      · exact clean_scientific _ hdigits _
    rw [Number.text, Binary.render, String.toList_ofList]
    split
    · exact clean_cons.mpr ⟨by decide, hbody⟩
    · exact hbody

theorem clean_escapeChar (c : Char) : Clean (escapeChar c) := by
  have hdigits : ∀ n < 32,
      32 ≤ (Nat.digitChar (n / 16)).toNat ∧ 32 ≤ (Nat.digitChar (n % 16)).toNat := by decide
  unfold escapeChar
  split
  case h_8 =>
    split
    · rename_i hcontrol
      simp [clean_cons, clean_nil, hdigits _ hcontrol]
    · rename_i hplain
      exact clean_cons.mpr ⟨Nat.le_of_not_lt hplain, clean_nil⟩
  all_goals simp [clean_cons, clean_nil]

theorem clean_quoted (s : String) : Clean (quoted s) := by
  have hmarks : Clean (s.toList.flatMap escapeChar) := fun c hc => by
    obtain ⟨d, -, hd⟩ := List.mem_flatMap.mp hc
    exact clean_escapeChar d c hd
  simp [quoted, clean_cons, clean_append, clean_nil, hmarks]

mutual
/-- The compact text of a value is one line. -/
theorem clean_chars : (j : Json) → Clean j.chars
  | .null | .bool true | .bool false => by simp [chars, clean_cons, clean_nil]
  | .num n => by rw [chars]; exact clean_number n
  | .str s => by rw [chars]; exact clean_quoted s
  | .arr [] | .obj [] => by simp [chars, clean_cons, clean_nil]
  | .arr (x :: xs) => by
    simp [chars, clean_cons, clean_append, clean_chars x, clean_itemsChars xs]
  | .obj ((k, v) :: rest) => by
    simp [chars, clean_cons, clean_append, clean_quoted k, clean_chars v, clean_fieldsChars rest]
theorem clean_itemsChars : (xs : List Json) → Clean (itemsChars xs)
  | [] => by simp [itemsChars, clean_cons, clean_nil]
  | x :: xs => by
    simp [itemsChars, clean_cons, clean_append, clean_chars x, clean_itemsChars xs]
theorem clean_fieldsChars : (fields : List (String × Json)) → Clean (fieldsChars fields)
  | [] => by simp [fieldsChars, clean_cons, clean_nil]
  | (k, v) :: rest => by
    simp [fieldsChars, clean_cons, clean_append, clean_quoted k, clean_chars v,
      clean_fieldsChars rest]
end

end Workflow.Json
