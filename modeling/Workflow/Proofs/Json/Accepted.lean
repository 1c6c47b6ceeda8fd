import Workflow.Proofs.Except
import Workflow.Proofs.Json.Members
import Mathlib.Data.List.DropRight

/-! What readers let in: from whatever text or document a value is read, it nests no more than the
text may, the members of its objects are in order and its integers are in their ranges. -/
namespace Workflow.Json

/-! ### Numbers -/

/-- The number is no integer, or one in the exact range. -/
def InRange : Number → Prop
  | .int n => Number.exactLeast ≤ n ∧ n ≤ Number.exactGreatest
  | .real _ => True

namespace Numeral

variable {negative : Bool} {n : Number} {s rest : List Char}

theorem accumulate_lt {sig : ℕ} (h : sig < Nat.pow 2 64) (digits : List Char) :
    (accumulate sig digits).1 < Nat.pow 2 64 := by
  induction digits generalizing sig with
  | nil => exact h
  | cons c digits ih =>
    rw [accumulate]
    split
    · rename_i hnext
      exact ih hnext
    · exact h

theorem integer_inRange {sig : ℕ} (h : sig < Nat.pow 2 64) : InRange (integer negative sig) := by
  unfold integer
  split
  · exact Number.natCast_exact_iff.mpr h
  · split
    · trivial
    · rename_i hsmall
      simp only [Bool.or_eq_true, decide_eq_true_eq, not_or, Nat.not_lt] at hsmall
      exact Number.neg_exact_iff.mpr hsmall.2

theorem real_inRange {sig : ℕ} {e : Int} (h : real negative sig e s = .ok (n, rest)) :
    InRange n := by
  unfold real at h
  split at h
  · cases h
    trivial
  · cases h

theorem magnitude_inRange {sig : ℕ} {e : Int} {minus : Bool}
    (h : magnitude negative sig e minus s = .ok (n, rest)) : InRange n := by
  unfold magnitude at h
  dsimp only at h
  split at h
  · exact absurd h noDigit_ne_ok
  · exact real_inRange h

theorem exponent_inRange {sig : ℕ} {e : Int} (h : exponent negative sig e s = .ok (n, rest)) :
    InRange n := by
  obtain ⟨minus, t, heq⟩ : ∃ minus t,
      exponent negative sig e s = magnitude negative sig e minus t := by
    unfold exponent magnitude
    split
    exact ⟨_, _, rfl⟩
  exact magnitude_inRange (heq ▸ h)

theorem fraction_inRange {sig : ℕ} {e : Int} (h : fraction negative sig e s = .ok (n, rest)) :
    InRange n := by
  unfold fraction at h
  dsimp only at h
  split at h
  · exact absurd h noDigit_ne_ok
  · split at h
    · exact exponent_inRange h
    · exact exponent_inRange h
    · exact real_inRange h

theorem read_inRange (h : read negative s = .ok (n, rest)) : InRange n := by
  rw [read_of_whole (whole_of_read h)] at h
  unfold remainder at h
  dsimp only at h
  split at h
  · exact fraction_inRange h
  · exact exponent_inRange h
  · exact exponent_inRange h
  · split at h
    · cases h
      exact integer_inRange (accumulate_lt (by decide) _)
    · exact real_inRange h

end Numeral

/-! ### Members in order -/

section Pairs

variable {α : Type}

theorem encodePairs_insertPair (encode : α → Json) (pairs : List (String × α)) (key : String)
    (a : α) : encodePairs encode (insertPair pairs key a) =
      Fields.insert (encodePairs encode pairs) key (encode a) := by
  induction pairs with
  | nil => rfl
  | cons p pairs ih =>
    unfold encodePairs at ih ⊢
    rw [insertPair, List.map_cons, Fields.insert]
    split
    · rfl
    · split
      · rfl
      · rw [List.map_cons, ih]

theorem pairwise_insertPair {pairs : List (String × α)} (h : pairs.Pairwise fun p q => p.1 < q.1)
    (key : String) (a : α) : (insertPair pairs key a).Pairwise fun p q => p.1 < q.1 := by
  have hsorted : Fields.Sorted (encodePairs (fun _ => .null) pairs) := List.pairwise_map.mpr h
  have hinsert := hsorted.insert key .null
  rw [← encodePairs_insertPair (fun _ => .null) pairs key a, Fields.Sorted, encodePairs,
    List.pairwise_map] at hinsert
  exact hinsert

theorem Fields.mem_of_mem_insert {fields : Fields} {key : String} {value : Json}
    {kv : String × Json} (h : kv ∈ fields.insert key value) : kv = (key, value) ∨ kv ∈ fields := by
  induction fields with
  | nil => exact Or.inl (List.mem_singleton.mp h)
  | cons x fields ih =>
    rw [Fields.insert] at h
    split at h
    · exact List.mem_cons.mp h
    · split at h
      · rcases List.mem_cons.mp h with h | h
        · exact Or.inl h
        · exact Or.inr (List.mem_cons_of_mem _ h)
      · rcases List.mem_cons.mp h with rfl | h
        · exact Or.inr List.mem_cons_self
        · exact (ih h).imp_right (List.mem_cons_of_mem _)

/-- Every member of the fields is one of the pairs they are made of. -/
theorem Fields.mem_of_mem_ofList {pairs : Fields} {kv : String × Json}
    (h : kv ∈ Fields.ofList pairs) : kv ∈ pairs := by
  induction pairs using List.reverseRecOn with
  | nil => cases h
  | append_singleton pairs x ih =>
    unfold Fields.ofList at ih h
    rw [List.foldl_append] at h
    rcases Fields.mem_of_mem_insert h with rfl | h
    · exact List.mem_append_right _ (List.mem_singleton_self _)
    · exact List.mem_append_left _ (ih h)

end Pairs

/-! ### Documents -/

theorem skipSpace_skipSpace (s : List Char) : skipSpace (skipSpace s) = skipSpace s :=
  List.dropWhile_idempotent _ s

namespace Document

/-- A document of so many levels at the most, its integers being in the exact range. -/
inductive Within : ℕ → Document → Prop
  | null {depth : ℕ} : Within depth .null
  | bool {depth : ℕ} (value : Bool) : Within depth (.bool value)
  | num {depth : ℕ} {value : Number} (h : InRange value) : Within depth (.num value)
  | str {depth : ℕ} (value : String) : Within depth (.str value)
  | arr {depth : ℕ} {items : List Document} (h : ∀ item ∈ items, Within depth item) :
    Within (depth + 1) (.arr items)
  | obj {depth : ℕ} {fields : List (String × Document)} (h : ∀ kd ∈ fields, Within depth kd.2) :
    Within (depth + 1) (.obj fields)

/-- What stands before a text is a scalar, unless it is a bracket. -/
theorem readFront_within {s rest : List Char} {doc : Document}
    (h : readFront s = .ok (doc, rest)) (hlist : ∀ r, skipSpace s ≠ '[' :: r)
    (hobject : ∀ r, skipSpace s ≠ '\x7b' :: r) (depth : ℕ) : Within depth doc := by
  unfold readFront at h
  split at h
  · cases h
  · obtain ⟨r, -, heq⟩ := map_eq_ok.mp h
    cases heq
    exact .null
  · obtain ⟨r, -, heq⟩ := map_eq_ok.mp h
    cases heq
    exact .bool true
  · obtain ⟨r, -, heq⟩ := map_eq_ok.mp h
    cases heq
    exact .bool false
  · obtain ⟨⟨t, r⟩, -, heq⟩ := map_eq_ok.mp h
    cases heq
    exact .str t
  · obtain ⟨⟨n, r⟩, hread, heq⟩ := map_eq_ok.mp h
    cases heq
    exact .num (Numeral.read_inRange hread)
  · rename_i hs
    exact absurd hs (hlist _)
  · rename_i hs
    exact absurd hs (hobject _)
  · split at h
    · obtain ⟨⟨n, r⟩, hread, heq⟩ := map_eq_ok.mp h
      cases heq
      exact .num (Numeral.read_inRange hread)
    · cases h

theorem nest_eq_ok {depth inner : ℕ} {s : List Char} (h : nest depth s = .ok inner) :
    depth = inner + 1 := by
  cases depth with
  | zero => cases h
  | succ depth =>
    cases h
    rfl

/-- With so much fuel, only documents of the levels that are left are read. -/
structure ReadsWithin (fuel : ℕ) : Prop where
  value : ∀ {depth s doc rest}, readValue fuel depth s = .ok (doc, rest) → Within depth doc
  items : ∀ {depth index s docs rest}, readItems fuel depth index s = .ok (docs, rest) →
    ∀ doc ∈ docs, Within depth doc
  fields : ∀ {depth first s members rest}, readFields fuel depth first s = .ok (members, rest) →
    ∀ kd ∈ members, Within depth kd.2

namespace ReadsWithin

variable {fuel depth : ℕ} {s rest : List Char}

theorem value_succ (ih : ReadsWithin fuel) {doc : Document}
    (h : readValue (fuel + 1) depth s = .ok (doc, rest)) : Within depth doc := by
  rw [readValue] at h
  split at h
  · obtain ⟨inner, hnest, h⟩ := bind_eq_ok.mp h
    obtain ⟨⟨items, r⟩, hitems, h⟩ := bind_eq_ok.mp h
    obtain ⟨t, -, h⟩ := bind_eq_ok.mp h
    cases h
    rw [nest_eq_ok (mapError_eq_ok.mp hnest)]
    exact .arr (ih.items hitems)
  · obtain ⟨inner, hnest, h⟩ := bind_eq_ok.mp h
    obtain ⟨⟨fields, r⟩, hfields, h⟩ := bind_eq_ok.mp h
    obtain ⟨t, -, h⟩ := bind_eq_ok.mp h
    cases h
    rw [nest_eq_ok (mapError_eq_ok.mp hnest)]
    exact .obj (ih.fields hfields)
  · rename_i hlist hobject
    -- The white space has been skipped before the front is looked at.
    refine readFront_within (mapError_eq_ok.mp h) ?_ ?_ depth <;> rw [skipSpace_skipSpace]
    · exact hlist
    · exact hobject

theorem items_succ (ih : ReadsWithin fuel) {index : ℕ} {docs : List Document}
    (h : readItems (fuel + 1) depth index s = .ok (docs, rest)) :
    ∀ doc ∈ docs, Within depth doc := by
  rw [readItems] at h
  obtain ⟨front, -, h⟩ := bind_eq_ok.mp h
  cases front with
  | none =>
    cases h
    simp
  | some t =>
    obtain ⟨⟨item, r⟩, hitem, h⟩ := bind_eq_ok.mp h
    obtain ⟨⟨items, r'⟩, hitems, h⟩ := bind_eq_ok.mp h
    cases h
    exact List.forall_mem_cons.mpr ⟨ih.value (mapError_eq_ok.mp hitem), ih.items hitems⟩

theorem fields_succ (ih : ReadsWithin fuel) {first : Bool} {members : List (String × Document)}
    (h : readFields (fuel + 1) depth first s = .ok (members, rest)) :
    ∀ kd ∈ members, Within depth kd.2 := by
  rw [readFields] at h
  obtain ⟨front, -, h⟩ := bind_eq_ok.mp h
  cases front with
  | none =>
    cases h
    simp
  | some kt =>
    obtain ⟨key, t⟩ := kt
    obtain ⟨t', -, h⟩ := bind_eq_ok.mp h
    obtain ⟨⟨value, r⟩, hvalue, h⟩ := bind_eq_ok.mp h
    obtain ⟨⟨fields, r'⟩, hfields, h⟩ := bind_eq_ok.mp h
    cases h
    exact List.forall_mem_cons.mpr ⟨ih.value (mapError_eq_ok.mp hvalue), ih.fields hfields⟩

end ReadsWithin

theorem readsWithin (fuel : ℕ) : ReadsWithin fuel := by
  induction fuel with
  | zero =>
    refine ⟨fun h => ?_, fun h => ?_, fun h => ?_⟩
    · simp [readValue] at h
    · simp [readItems] at h
    · simp [readFields] at h
  | succ fuel ih => exact ⟨ih.value_succ, ih.items_succ, ih.fields_succ⟩

theorem itemsToJson_eq_map (docs : List Document) : itemsToJson docs = docs.map toJson := by
  induction docs with
  | nil => rfl
  | cons doc docs ih => rw [itemsToJson, ih, List.map_cons]

theorem fieldsToJson_eq_map (fields : List (String × Document)) :
    fieldsToJson fields = fields.map fun kd => (kd.1, kd.2.toJson) := by
  induction fields with
  | nil => rfl
  | cons kd fields ih => rw [fieldsToJson, ih, List.map_cons]

/-- The value of a document has its levels. -/
theorem Within.toJson {depth : ℕ} {doc : Document} (h : Within depth doc) :
    Fits depth doc.toJson := by
  induction h with
  | null => exact .null
  | bool value => exact .bool value
  | @num depth value h =>
    cases value with
    | int n => exact .int h.1 h.2
    | real x => exact .real trivial
  | str value => exact .str value
  | arr h ih =>
    rw [Document.toJson, itemsToJson_eq_map]
    refine .arr fun item hitem => ?_
    obtain ⟨doc, hdoc, rfl⟩ := List.mem_map.mp hitem
    exact ih doc hdoc
  | obj h ih =>
    rw [Document.toJson, fieldsToJson_eq_map]
    have hnil : Fields.Sorted [] := List.Pairwise.nil
    refine .obj (hnil.merge _) fun kv hkv => ?_
    obtain ⟨kd, hkd, rfl⟩ := List.mem_map.mp (Fields.mem_of_mem_ofList hkv)
    exact ih kd hkd

end Document

/-! ### Readers -/

open Document (ofJson)

/-- Whatever the reader gives is as `P` says, from a text that may nest so many levels, and from a
document of as many levels that was held back. -/
structure Yields {α : Type} (read : Reader α) (depth : ℕ) (P : α → Prop) : Prop where
  ofText : ∀ {s a rest}, read.ofText depth s = .ok (a, rest) → P a
  ofDocument : ∀ {doc a}, doc.Within depth → read.ofDocument .held doc = .ok a → P a

section Yields

variable {α β : Type} {read : Reader α} {depth : ℕ} {P : α → Prop} {Q : β → Prop}

theorem Yields.trivial : Yields read depth fun _ => True :=
  ⟨fun _ => True.intro, fun _ _ => True.intro⟩

theorem Yields.andThen {f : α → ReadResult β} (h : Yields read depth P)
    (hf : ∀ {a b}, P a → f a = .ok b → Q b) : Yields (read.andThen f) depth Q where
  ofText hread := by
    obtain ⟨⟨a, r⟩, ha, hread⟩ := bind_eq_ok.mp hread
    obtain ⟨b, hb, hread⟩ := bind_eq_ok.mp hread
    cases hread
    exact hf (h.ofText ha) hb
  ofDocument hdoc hread := by
    obtain ⟨a, ha, hb⟩ := bind_eq_ok.mp hread
    exact hf (h.ofDocument hdoc ha) hb

theorem Yields.map {f : α → β} (h : Yields read depth P) (hf : ∀ {a}, P a → Q (f a)) :
    Yields (read.map f) depth Q :=
  h.andThen fun ha hb => Except.ok.inj hb ▸ hf ha

theorem yields_scalar {f : Document → ReadResult α} (hf : ∀ {doc a}, f doc = .ok a → P a) :
    Yields (.scalar f) depth P where
  ofText hread := by
    obtain ⟨⟨doc, r⟩, -, hread⟩ := bind_eq_ok.mp hread
    obtain ⟨a, ha, hread⟩ := bind_eq_ok.mp hread
    cases hread
    exact hf ha
  ofDocument _ hread := hf hread

theorem yields_natural {bits : ℕ} {name : String} :
    Yields (readNatural bits name) depth (· < Nat.pow 2 bits) := by
  refine yields_scalar fun {doc a} h => ?_
  split at h
  · split at h
    · rename_i n hn
      cases h
      omega
    · cases h
  · cases h

theorem yields_document : Yields readDocument depth (Document.Within depth) where
  ofText hread := by
    obtain ⟨⟨doc, r⟩, hdoc, hread⟩ := bind_eq_ok.mp hread
    cases hread
    exact (Document.readsWithin _).value (mapError_eq_ok.mp hdoc)
  ofDocument hdoc hread := by
    cases hread
    exact hdoc

theorem yields_any : Yields readAny depth (Fits depth) :=
  yields_document.map Document.Within.toJson

theorem Yields.option (h : Yields read depth P) :
    Yields (readOption read) depth fun o => ∀ a ∈ o, P a where
  ofText {s o rest} hread := by
    unfold readOption at hread
    dsimp only at hread
    split at hread
    · obtain ⟨r, -, hread⟩ := bind_eq_ok.mp hread
      cases hread
      simp
    · obtain ⟨⟨a, r⟩, ha, hread⟩ := bind_eq_ok.mp hread
      cases hread
      simpa using h.ofText ha
  ofDocument {doc o} hdoc hread := by
    unfold readOption at hread
    dsimp only at hread
    split at hread
    · cases hread
      simp
    · obtain ⟨a, ha, hread⟩ := bind_eq_ok.mp hread
      cases hread
      simpa using h.ofDocument hdoc ha

theorem mismatchText_ne_ok {expected : String} {s : List Char} {a : α} :
    mismatchText expected s ≠ .ok a := by
  intro h
  obtain ⟨r, -, h⟩ := bind_eq_ok.mp h
  cases h

end Yields

/-! ### Lists and maps -/

section Lists

variable {α : Type} {read : Reader α} {depth : ℕ} {P : α → Prop}

theorem Yields.itemsOfText (h : Yields read depth P) {fuel index : ℕ} {s rest : List Char}
    {as : List α} (hread : itemsOfText read depth fuel index s = .ok (as, rest)) :
    ∀ a ∈ as, P a := by
  induction fuel generalizing index s as rest with
  | zero => cases hread
  | succ fuel ih =>
    rw [Json.itemsOfText] at hread
    obtain ⟨front, -, hread⟩ := bind_eq_ok.mp hread
    cases front with
    | none =>
      cases hread
      simp
    | some t =>
      obtain ⟨⟨a, r⟩, ha, hread⟩ := bind_eq_ok.mp hread
      obtain ⟨⟨as, r'⟩, has, hread⟩ := bind_eq_ok.mp hread
      cases hread
      exact List.forall_mem_cons.mpr ⟨h.ofText (mapError_eq_ok.mp ha), ih has⟩

theorem Yields.itemsOfDocument (h : Yields read depth P) {index : ℕ} {items : List Document}
    {as : List α} (hitems : ∀ item ∈ items, item.Within depth)
    (hread : itemsOfDocument read .held index items = .ok as) : ∀ a ∈ as, P a := by
  induction items generalizing index as with
  | nil =>
    cases hread
    simp
  | cons item items ih =>
    rw [List.forall_mem_cons] at hitems
    rw [Json.itemsOfDocument] at hread
    obtain ⟨a, ha, hread⟩ := bind_eq_ok.mp hread
    obtain ⟨as, has, hread⟩ := bind_eq_ok.mp hread
    cases hread
    exact List.forall_mem_cons.mpr ⟨h.ofDocument hitems.1 ha, ih hitems.2 has⟩

theorem Yields.list (h : Yields read depth P) :
    Yields (readList read) (depth + 1) fun as => ∀ a ∈ as, P a where
  ofText {s as rest} hread := by
    unfold readList at hread
    dsimp only at hread
    split at hread
    · obtain ⟨inner, hnest, hread⟩ := bind_eq_ok.mp hread
      obtain ⟨⟨values, r⟩, hvalues, hread⟩ := bind_eq_ok.mp hread
      obtain ⟨t, -, hread⟩ := bind_eq_ok.mp hread
      cases hread
      obtain rfl := Nat.succ.inj (Document.nest_eq_ok (mapError_eq_ok.mp hnest))
      exact h.itemsOfText hvalues
    · exact absurd hread mismatchText_ne_ok
  ofDocument {doc as} hdoc hread := by
    cases hdoc with
    | arr hitems => exact h.itemsOfDocument hitems hread
    | null | bool | num | str | obj => cases hread

theorem pairsOfText_pairwise {fuel : ℕ} {first : Bool} {s rest : List Char}
    {before pairs : List (String × α)} (hs : before.Pairwise fun p q => p.1 < q.1)
    (hread : pairsOfText read depth fuel first s before = .ok (pairs, rest)) :
    pairs.Pairwise fun p q => p.1 < q.1 := by
  induction fuel generalizing first s before with
  | zero => cases hread
  | succ fuel ih =>
    rw [pairsOfText] at hread
    obtain ⟨front, -, hread⟩ := bind_eq_ok.mp hread
    cases front with
    | none =>
      cases hread
      exact hs
    | some kt =>
      obtain ⟨⟨a, r⟩, -, hread⟩ := bind_eq_ok.mp hread
      exact ih (pairwise_insertPair hs _ a) hread

theorem foldlM_pairwise {fields : List (String × Document)} {before pairs : List (String × α)}
    (hs : before.Pairwise fun p q => p.1 < q.1)
    (hread : fields.foldlM (fun pairs (k, d) => do
      return insertPair pairs k (← Origin.held.locate [.member k] (read.ofDocument .held d)))
      before = (.ok pairs : ReadResult (List (String × α)))) :
    pairs.Pairwise fun p q => p.1 < q.1 := by
  induction fields generalizing before with
  | nil =>
    cases hread
    exact hs
  | cons kd fields ih =>
    rw [List.foldlM_cons] at hread
    obtain ⟨more, hmore, hread⟩ := bind_eq_ok.mp hread
    obtain ⟨a, -, hmore⟩ := bind_eq_ok.mp hmore
    cases hmore
    exact ih (pairwise_insertPair hs _ a) hread

/-- The pairs of a map are in the order of their keys, in whatever order they are written. -/
theorem yields_map :
    Yields (readMap read) depth fun pairs => pairs.Pairwise fun p q => p.1 < q.1 where
  ofText {s pairs rest} hread := by
    unfold readMap at hread
    dsimp only at hread
    split at hread
    · obtain ⟨inner, -, hread⟩ := bind_eq_ok.mp hread
      obtain ⟨⟨pairs, r⟩, hpairs, hread⟩ := bind_eq_ok.mp hread
      obtain ⟨t, -, hread⟩ := bind_eq_ok.mp hread
      cases hread
      exact pairsOfText_pairwise List.Pairwise.nil hpairs
    · exact absurd hread mismatchText_ne_ok
  ofDocument {doc pairs} _ hread := by
    unfold readMap at hread
    dsimp only at hread
    split at hread
    · exact foldlM_pairwise List.Pairwise.nil hread
    · cases hread

end Lists

/-! ### Records -/

section Records

variable {δ : Type} {depth : ℕ} {Inv : δ → Prop} {slots : List (Slot δ)}

/-- Reading a member keeps the invariant of the draft. -/
def Slot.Keeps (slot : Slot δ) (depth : ℕ) (Inv : δ → Prop) : Prop :=
  Yields slot.read depth fun set => ∀ draft, Inv draft → Inv (set draft)

theorem Slot.keeps_of {α : Type} {name : String} {optional : Bool} {get : δ → Option α}
    {set : δ → α → δ} {read : Reader α} {P : α → Prop} (h : Yields read depth P)
    (hset : ∀ draft a, P a → Inv draft → Inv (set draft a)) :
    (Slot.of name optional get set read).Keeps depth Inv := by
  have hmap : Yields (read.map fun a draft => set draft a) depth
      fun change => ∀ draft, Inv draft → Inv (change draft) :=
    h.map fun ha draft hdraft => hset draft _ ha hdraft
  exact hmap

/-- A member of which nothing has to be known. -/
theorem Slot.keeps_any {α : Type} {name : String} {optional : Bool}
    {get : δ → Option α} {set : δ → α → δ} {read : Reader α}
    (hset : ∀ draft a, Inv draft → Inv (set draft a)) :
    (Slot.of name optional get set read).Keeps depth Inv :=
  keeps_of .trivial fun draft a _ => hset draft a

theorem mem_of_slotFor {draft : δ} {key : String} {slot : Slot δ}
    (h : slotFor slots draft key = .ok (some slot)) : slot ∈ slots := by
  unfold slotFor at h
  split at h
  · cases h
  · rename_i found hfound
    split at h
    · cases h
    · cases h
      exact List.mem_of_find?_eq_some hfound

theorem valueOfText_eq_ok {α : Type} {read : Reader α} {key : String} {s rest : List Char} {a : α}
    (h : valueOfText read depth key s = .ok (a, rest)) :
    ∃ t, read.ofText depth t = .ok (a, rest) := by
  obtain ⟨t, -, h⟩ := bind_eq_ok.mp h
  exact ⟨t, mapError_eq_ok.mp h⟩

variable (hslots : ∀ slot ∈ slots, slot.Keeps depth Inv)
include hslots

theorem membersOfText_keeps {fuel : ℕ} {first : Bool} {s rest : List Char} {draft result : δ}
    (hdraft : Inv draft)
    (hread : membersOfText slots depth fuel first s draft = .ok (result, rest)) : Inv result := by
  induction fuel generalizing first s draft with
  | zero => cases hread
  | succ fuel ih =>
    rw [membersOfText] at hread
    obtain ⟨front, -, hread⟩ := bind_eq_ok.mp hread
    cases front with
    | none =>
      cases hread
      exact hdraft
    | some kt =>
      obtain ⟨found, hfound, hread⟩ := bind_eq_ok.mp hread
      cases found with
      | some slot =>
        obtain ⟨⟨set, r⟩, hset, hread⟩ := bind_eq_ok.mp hread
        obtain ⟨t, hset⟩ := valueOfText_eq_ok hset
        exact ih ((hslots slot (mem_of_slotFor hfound)).ofText hset draft hdraft) hread
      | none =>
        obtain ⟨t, -, hread⟩ := bind_eq_ok.mp hread
        obtain ⟨r, -, hread⟩ := bind_eq_ok.mp hread
        exact ih hdraft hread

theorem membersOfDocument_keeps {members : Held} {draft result : δ}
    (hmembers : ∀ kd ∈ members, kd.2.Within depth) (hdraft : Inv draft)
    (hread : membersOfDocument slots .held members draft = .ok result) : Inv result := by
  induction members generalizing draft with
  | nil =>
    cases hread
    exact hdraft
  | cons kd members ih =>
    rw [List.forall_mem_cons] at hmembers
    rw [membersOfDocument] at hread
    obtain ⟨found, hfound, hread⟩ := bind_eq_ok.mp hread
    cases found with
    | some slot =>
      obtain ⟨set, hset, hread⟩ := bind_eq_ok.mp hread
      have hkeeps := (hslots slot (mem_of_slotFor hfound)).ofDocument hmembers.1 hset
      exact ih hmembers.2 (hkeeps draft hdraft) hread
    | none => exact ih hmembers.2 hdraft hread

omit hslots in
theorem sequenceOfText_keeps {expected : String} (hslots : ∀ slot ∈ slots, slot.Keeps depth Inv)
    {n : ℕ} {s rest : List Char} {draft result : δ} (hdraft : Inv draft)
    (hread : sequenceOfText expected depth slots n s draft = .ok (result, rest)) : Inv result := by
  induction slots generalizing n s draft with
  | nil =>
    cases hread
    exact hdraft
  | cons slot slots ih =>
    rw [List.forall_mem_cons] at hslots
    rw [sequenceOfText] at hread
    obtain ⟨front, -, hread⟩ := bind_eq_ok.mp hread
    cases front with
    | some t =>
      obtain ⟨⟨set, r⟩, hset, hread⟩ := bind_eq_ok.mp hread
      exact ih hslots.2 (hslots.1.ofText (mapError_eq_ok.mp hset) draft hdraft) hread
    | none =>
      dsimp only at hread
      split at hread
      · exact ih hslots.2 hdraft hread
      · cases hread

omit hslots in
theorem sequenceOfDocument_keeps {expected : String} (hslots : ∀ slot ∈ slots, slot.Keeps depth Inv)
    {n : ℕ} {items rest : List Document} {draft result : δ}
    (hitems : ∀ item ∈ items, item.Within depth) (hdraft : Inv draft)
    (hread : sequenceOfDocument expected .held slots n items draft = .ok (result, rest)) :
    Inv result := by
  induction slots generalizing n items draft with
  | nil =>
    cases hread
    exact hdraft
  | cons slot slots ih =>
    rw [List.forall_mem_cons] at hslots
    cases items with
    | cons item items =>
      rw [List.forall_mem_cons] at hitems
      rw [sequenceOfDocument] at hread
      obtain ⟨set, hset, hread⟩ := bind_eq_ok.mp hread
      exact ih hslots.2 hitems.2 (hslots.1.ofDocument hitems.1 hset draft hdraft) hread
    | nil =>
      rw [sequenceOfDocument] at hread
      split at hread
      · exact ih hslots.2 hitems hdraft hread
      · cases hread

/-- Whether a record is written as an object or as a sequence, its draft keeps the invariant. -/
theorem yields_record {name : String} {draft : δ} (hdraft : Inv draft) :
    Yields (readRecord name slots draft) (depth + 1) Inv where
  ofText {s result rest} hread := by
    unfold readRecord at hread
    dsimp only at hread
    split at hread
    · obtain ⟨inner, hnest, hread⟩ := bind_eq_ok.mp hread
      obtain ⟨⟨result, r⟩, hmembers, hread⟩ := bind_eq_ok.mp hread
      obtain ⟨t, -, hread⟩ := bind_eq_ok.mp hread
      cases hread
      obtain rfl := Nat.succ.inj (Document.nest_eq_ok (mapError_eq_ok.mp hnest))
      exact membersOfText_keeps hslots hdraft hmembers
    · obtain ⟨inner, hnest, hread⟩ := bind_eq_ok.mp hread
      obtain ⟨⟨result, r⟩, hitems, hread⟩ := bind_eq_ok.mp hread
      obtain ⟨t, -, hread⟩ := bind_eq_ok.mp hread
      cases hread
      obtain rfl := Nat.succ.inj (Document.nest_eq_ok (mapError_eq_ok.mp hnest))
      exact sequenceOfText_keeps hslots hdraft hitems
    · exact absurd hread mismatchText_ne_ok
  ofDocument {doc result} hdoc hread := by
    cases hdoc with
    | obj hfields => exact membersOfDocument_keeps hslots hfields hdraft hread
    | arr hitems =>
      obtain ⟨⟨result, rest⟩, hsequence, hread⟩ := bind_eq_ok.mp hread
      obtain ⟨u, -, hread⟩ := bind_eq_ok.mp hread
      cases hread
      exact sequenceOfDocument_keeps hslots hitems hdraft hsequence
    | null | bool | num | str => cases hread

theorem heldOfText_keeps {fuel : ℕ} {first : Bool} {s rest : List Char} {draft result : δ}
    {before held : Held} (hbefore : ∀ kd ∈ before, kd.2.Within depth) (hdraft : Inv draft)
    (hread : heldOfText slots depth fuel first s draft before = .ok ((result, held), rest)) :
    Inv result ∧ ∀ kd ∈ held, kd.2.Within depth := by
  induction fuel generalizing first s draft before with
  | zero => cases hread
  | succ fuel ih =>
    rw [heldOfText] at hread
    obtain ⟨front, -, hread⟩ := bind_eq_ok.mp hread
    cases front with
    | none =>
      cases hread
      exact ⟨hdraft, fun kd hkd => hbefore kd (List.mem_reverse.mp hkd)⟩
    | some kt =>
      obtain ⟨found, hfound, hread⟩ := bind_eq_ok.mp hread
      cases found with
      | some slot =>
        obtain ⟨⟨set, r⟩, hset, hread⟩ := bind_eq_ok.mp hread
        obtain ⟨t, hset⟩ := valueOfText_eq_ok hset
        exact ih hbefore ((hslots slot (mem_of_slotFor hfound)).ofText hset draft hdraft) hread
      | none =>
        obtain ⟨⟨doc, r⟩, hdoc, hread⟩ := bind_eq_ok.mp hread
        obtain ⟨t, hdoc⟩ := valueOfText_eq_ok hdoc
        exact ih (List.forall_mem_cons.mpr ⟨yields_document.ofText hdoc, hbefore⟩) hdraft hread

theorem heldOfDocument_keeps {members before held : Held} {draft result : δ}
    (hmembers : ∀ kd ∈ members, kd.2.Within depth) (hbefore : ∀ kd ∈ before, kd.2.Within depth)
    (hdraft : Inv draft)
    (hread : heldOfDocument slots .held members draft before = .ok (result, held)) :
    Inv result ∧ ∀ kd ∈ held, kd.2.Within depth := by
  induction members generalizing draft before with
  | nil =>
    cases hread
    exact ⟨hdraft, fun kd hkd => hbefore kd (List.mem_reverse.mp hkd)⟩
  | cons kd members ih =>
    rw [List.forall_mem_cons] at hmembers
    rw [heldOfDocument] at hread
    obtain ⟨found, hfound, hread⟩ := bind_eq_ok.mp hread
    cases found with
    | some slot =>
      obtain ⟨set, hset, hread⟩ := bind_eq_ok.mp hread
      have hkeeps := (hslots slot (mem_of_slotFor hfound)).ofDocument hmembers.1 hset
      exact ih hmembers.2 hbefore (hkeeps draft hdraft) hread
    | none =>
      exact ih hmembers.2 (List.forall_mem_cons.mpr ⟨hmembers.1, hbefore⟩) hdraft hread

theorem yields_openRecord {name : String} {draft : δ} (hdraft : Inv draft) :
    Yields (readOpenRecord name slots draft) (depth + 1)
      fun result => Inv result.1 ∧ ∀ kd ∈ result.2, kd.2.Within depth where
  ofText {s result rest} hread := by
    unfold readOpenRecord at hread
    dsimp only at hread
    split at hread
    · obtain ⟨inner, hnest, hread⟩ := bind_eq_ok.mp hread
      obtain ⟨⟨result, r⟩, hmembers, hread⟩ := bind_eq_ok.mp hread
      obtain ⟨t, -, hread⟩ := bind_eq_ok.mp hread
      cases hread
      obtain rfl := Nat.succ.inj (Document.nest_eq_ok (mapError_eq_ok.mp hnest))
      exact heldOfText_keeps hslots (by simp) hdraft hmembers
    · exact absurd hread mismatchText_ne_ok
  ofDocument {doc result} hdoc hread := by
    cases hdoc with
    | obj hfields => exact heldOfDocument_keeps hslots hfields (by simp) hdraft hread
    | null | bool | num | str | arr => cases hread

end Records

/-- A field that takes its default when it has not been read. -/
theorem getD_of {α : Type} {P : α → Prop} {o : Option α} {default : α} (h : ∀ a ∈ o, P a)
    (hdefault : P default) : P (o.getD default) := by
  cases o with
  | none => exact hdefault
  | some a => exact h a rfl

/-- Taking the tag out of members leaves documents of these members. -/
theorem takeTag_within {α : Type} {depth : ℕ} {tag : String} {table : List (String × α)}
    {origin : Origin} {held before rest : Held} {found : Option α} {a : α}
    (hheld : ∀ kd ∈ held, kd.2.Within depth) (hbefore : ∀ kd ∈ before, kd.2.Within depth)
    (h : takeTag tag table origin held found before = .ok (a, rest)) :
    ∀ kd ∈ rest, kd.2.Within depth := by
  induction held generalizing found before with
  | nil =>
    cases found with
    | none => cases h
    | some a =>
      cases h
      exact fun kd hkd => hbefore kd (List.mem_reverse.mp hkd)
  | cons kd held ih =>
    rw [List.forall_mem_cons] at hheld
    rw [takeTag] at h
    split at h
    · split at h
      · cases h
      · obtain ⟨b, -, h⟩ := bind_eq_ok.mp h
        exact ih hheld.2 hbefore h
    · exact ih hheld.2 (List.forall_mem_cons.mpr ⟨hheld.1, hbefore⟩) h

/-- What is read from a whole text. -/
theorem Yields.of_readWhole {α : Type} {read : Reader α} {P : α → Prop}
    (h : Yields read nestingLimit P) {text : String} {a : α} (hread : readWhole read text = .ok a) :
    P a := by
  obtain ⟨⟨b, rest⟩, hb, hread⟩ := bind_eq_ok.mp hread
  obtain ⟨u, -, hread⟩ := bind_eq_ok.mp hread
  cases hread
  exact h.ofText hb

end Workflow.Json
