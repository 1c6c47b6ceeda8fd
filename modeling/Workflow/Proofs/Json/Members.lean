import Workflow.Json.Record
import Workflow.Proofs.Json.Readers

/-! Records in any order of their members. Reading a member fills in its field of a draft, so that
the draft depends only on which members have been read, and not on their order. -/
namespace Workflow.Json

section Fills

variable {δ α : Type} {slots : List (Slot δ)} {after : List String → δ}

/-- Reading the member fills the draft in: `after keys` is the draft when the members of the given
keys have been read. -/
def Fills (slots : List (Slot δ)) (after : List String → δ) (key : String) (src : Source) : Prop :=
  ∃ slot set, slots.find? (·.name == key) = some slot ∧ Reads slot.read set src ∧
    ∀ keys, key ∉ keys → slot.isSet (after keys) = false ∧ set (after keys) = after (key :: keys)

/-- A member whose slot sets a field of the draft. -/
theorem fills_of {name : String} {optional : Bool} {get : δ → Option α} {set : δ → α → δ}
    {read : Reader α} {a : α} {src : Source} (h : Reads read a src)
    (hslot : slots.find? (·.name == name) = some (Slot.of name optional get set read))
    (hafter : ∀ keys, name ∉ keys → get (after keys) = none ∧
      set (after keys) a = after (name :: keys)) : Fills slots after name src := by
  refine ⟨_, fun d => set d a, hslot, h.map fun a d => set d a, fun keys hkeys => ?_⟩
  obtain ⟨hget, hset⟩ := hafter keys hkeys
  refine ⟨?_, hset⟩
  show (get (after keys)).isSome = false
  rw [hget]
  rfl

theorem slotFor_of_fills {key : String} {slot : Slot δ} {keys : List String}
    (hslot : slots.find? (·.name == key) = some slot)
    (hset : slot.isSet (after keys) = false) :
    slotFor slots (after keys) key = .ok (some slot) := by
  rw [slotFor, hslot]
  simp [hset]

/-! ### Objects of which all members belong to the record -/

theorem membersOfText_text {depth : ℕ} {fields : Fields}
    (h : ∀ kv ∈ fields, Fills slots after kv.1 (.text depth kv.2)) (keys : List String)
    (hnodup : (keys ++ fields.map (·.1)).Nodup) (first : Bool) (fuel : ℕ)
    (hfuel : fields.length < fuel) (rest : List Char) :
    membersOfText slots depth fuel first (fieldsText first fields ++ rest) (after keys.reverse) =
      .ok (after (keys ++ fields.map (·.1)).reverse, '\x7d' :: rest) := by
  -- `keys` have been read, and the draft lists them with the last one first.
  induction fields generalizing keys first fuel with
  | nil =>
    obtain ⟨fuel, rfl⟩ : ∃ n, fuel = n + 1 := ⟨fuel - 1, by omega⟩
    rw [membersOfText, keyOfText, nextKey_nil, fieldsText_nil, List.map_nil, List.append_nil]
    rfl
  | cons kv fields ih =>
    obtain ⟨k, v⟩ := kv
    rw [List.length_cons] at hfuel
    obtain ⟨fuel, rfl⟩ : ∃ n, fuel = n + 1 := ⟨fuel - 1, by omega⟩
    have hfresh : k ∉ keys.reverse := by
      rw [List.mem_reverse]
      exact fun hk => (List.nodup_append.mp hnodup).2.2 k hk k List.mem_cons_self rfl
    have hsplit : keys ++ List.map (·.1) ((k, v) :: fields) = keys ++ [k] ++ fields.map (·.1) := by
      simp
    obtain ⟨slot, set, hslot, hread, hfills⟩ := h (k, v) List.mem_cons_self
    obtain ⟨hunset, hset⟩ := hfills keys.reverse hfresh
    have hvalue : slot.read.ofText depth (v.chars ++ (fieldsText false fields ++ rest)) =
        .ok (set, fieldsText false fields ++ rest) := hread _ (breaks_fieldsText fields rest)
    rw [hsplit] at hnodup ⊢
    have hmore := ih (fun kv hkv => h kv (List.mem_cons_of_mem _ hkv)) (keys ++ [k]) hnodup false
      fuel (by omega)
    rw [List.reverse_concat] at hmore
    rw [membersOfText, keyOfText, nextKey_cons]
    simp only [valueOfText, scanned, locate, Except.mapError, bind, Except.bind, colon_cons,
      slotFor_of_fills hslot hunset, hvalue, hset, hmore]

theorem membersOfDocument_held {members : Held}
    (h : ∀ kd ∈ members, Fills slots after kd.1 (.held kd.2)) (keys : List String)
    (hnodup : (keys ++ members.map (·.1)).Nodup) :
    membersOfDocument slots .held members (after keys.reverse) =
      .ok (after (keys ++ members.map (·.1)).reverse) := by
  induction members generalizing keys with
  | nil =>
    rw [List.map_nil, List.append_nil]
    rfl
  | cons kd members ih =>
    obtain ⟨k, d⟩ := kd
    have hfresh : k ∉ keys.reverse := by
      rw [List.mem_reverse]
      exact fun hk => (List.nodup_append.mp hnodup).2.2 k hk k List.mem_cons_self rfl
    have hsplit : keys ++ List.map (·.1) ((k, d) :: members) =
        keys ++ [k] ++ members.map (·.1) := by simp
    obtain ⟨slot, set, hslot, hread, hfills⟩ := h (k, d) List.mem_cons_self
    obtain ⟨hunset, hset⟩ := hfills keys.reverse hfresh
    have hvalue : slot.read.ofDocument .held d = .ok set := hread
    rw [hsplit] at hnodup ⊢
    have hmore := ih (fun kd hkd => h kd (List.mem_cons_of_mem _ hkd)) (keys ++ [k]) hnodup
    rw [List.reverse_concat] at hmore
    rw [membersOfDocument]
    simp only [bind, Except.bind, slotFor_of_fills hslot hunset, Origin.locate, if_true, hvalue,
      hset, hmore]

theorem ofFields_eq_map (fields : Fields) :
    Document.ofFields fields = fields.map fun kv => (kv.1, Document.ofJson kv.2) := by
  induction fields with
  | nil => rfl
  | cons kv fields ih => rw [Document.ofFields, ih, List.map_cons]

/-- An object whose members all fill the draft in. -/
theorem reads_record (name : String) {src : Source} {fields : Fields}
    (hsrc : src.Gives (.obj fields)) (hnests : src.Nests)
    (hnodup : (fields.map (·.1)).Nodup)
    (h : ∀ kv ∈ fields, Fills slots after kv.1 (src.part kv.2)) :
    Reads (readRecord name slots (after [])) (after (fields.map (·.1)).reverse) src := by
  cases src with
  | text depth j =>
    obtain rfl : j = .obj fields := hsrc
    obtain ⟨depth, rfl⟩ : ∃ n, depth = n + 1 := ⟨depth - 1, by unfold Source.Nests at hnests; omega⟩
    intro rest hrest
    have hlen := length_le_fieldsText true fields
    have hmembers : membersOfText slots depth _ true (fieldsText true fields ++ rest) (after []) =
        .ok (after (fields.map (·.1)).reverse, '\x7d' :: rest) :=
      membersOfText_text h [] hnodup true
        (('\x7b' :: (fieldsText true fields ++ rest)).length + 1)
        (by simp only [List.length_cons, List.length_append]; omega) rest
    rw [chars_obj, List.cons_append]
    unfold readRecord
    dsimp only
    rw [skipSpace_cons (by rfl)]
    simp only [Document.nest, scanned, Except.mapError, bind, Except.bind, pure, Except.pure,
      hmembers, endOfObject_cons]
  | held doc =>
    obtain rfl : doc = Document.ofJson (.obj fields) := hsrc
    have hkeys : (Document.ofFields fields).map (·.1) = fields.map (·.1) := by
      simp [ofFields_eq_map, Function.comp_def]
    have hfills : ∀ kd ∈ Document.ofFields fields, Fills slots after kd.1 (.held kd.2) := by
      intro kd hkd
      rw [ofFields_eq_map] at hkd
      obtain ⟨kv, hkv, rfl⟩ := List.mem_map.mp hkd
      exact h kv hkv
    have hmembers := membersOfDocument_held hfills [] (by rwa [hkeys])
    rw [hkeys] at hmembers
    exact hmembers

/-! ### Objects part of whose members belong to something else -/

/-- Which members of an object are held back, and as which documents; the others fill
the draft in. -/
inductive Parts (slots : List (Slot δ)) (after : List String → δ) (depth : ℕ) :
    Fields → Held → Prop
  | nil : Parts slots after depth [] []
  | fill {key : String} {value : Json} {fields : Fields} {held : Held}
    (h : Fills slots after key (.text depth value)) (hrest : Parts slots after depth fields held) :
    Parts slots after depth ((key, value) :: fields) held
  | hold {key : String} {value : Json} {doc : Document} {fields : Fields} {held : Held}
    (hslot : slots.find? (·.name == key) = none) (hafter : ∀ keys, after (key :: keys) = after keys)
    (hread : Reads readDocument doc (.text depth value))
    (hrest : Parts slots after depth fields held) :
    Parts slots after depth ((key, value) :: fields) ((key, doc) :: held)

/-- Members that fill nothing in are held back, as documents of which `Q` holds. -/
theorem exists_parts {depth : ℕ} {Q : String → Document → Prop} {fields : Fields}
    (h : ∀ kv ∈ fields, Fills slots after kv.1 (.text depth kv.2) ∨
      slots.find? (·.name == kv.1) = none ∧ (∀ keys, after (kv.1 :: keys) = after keys) ∧
        ∃ doc, Reads readDocument doc (.text depth kv.2) ∧ Q kv.1 doc) :
    ∃ held, Parts slots after depth fields held ∧ (∀ kd ∈ held, Q kd.1 kd.2) ∧
      held.map (·.1) = (fields.map (·.1)).filter
        fun key => (slots.find? (·.name == key)).isNone := by
  induction fields with
  | nil => exact ⟨[], .nil, fun kd hkd => absurd hkd List.not_mem_nil, rfl⟩
  | cons kv fields ih =>
    obtain ⟨k, v⟩ := kv
    obtain ⟨held, hparts, hQ, hkeys⟩ := ih fun kv hkv => h kv (List.mem_cons_of_mem _ hkv)
    rcases h (k, v) List.mem_cons_self with hfill | ⟨hslot, hafter, doc, hread, hdoc⟩
    · refine ⟨held, .fill hfill hparts, hQ, ?_⟩
      obtain ⟨slot, -, hslot, -⟩ := hfill
      rw [hkeys, List.map_cons, List.filter_cons_of_neg (by simp [hslot])]
    · refine ⟨(k, doc) :: held, .hold hslot hafter hread hparts, ?_, ?_⟩
      · intro kd hkd
        rcases List.mem_cons.mp hkd with rfl | hkd
        · exact hdoc
        · exact hQ kd hkd
      · rw [List.map_cons, hkeys, List.map_cons, List.filter_cons_of_pos (by simp [hslot])]

theorem heldOfText_text {depth : ℕ} {fields : Fields} {held : Held}
    (h : Parts slots after depth fields held) (keys : List String)
    (hnodup : (keys ++ fields.map (·.1)).Nodup) (first : Bool) (fuel : ℕ)
    (hfuel : fields.length < fuel) (before : Held) (rest : List Char) :
    heldOfText slots depth fuel first (fieldsText first fields ++ rest) (after keys.reverse)
      before = .ok ((after (keys ++ fields.map (·.1)).reverse, before.reverse ++ held),
        '\x7d' :: rest) := by
  induction h generalizing keys first fuel before with
  | nil =>
    obtain ⟨fuel, rfl⟩ : ∃ n, fuel = n + 1 := ⟨fuel - 1, by omega⟩
    rw [heldOfText, keyOfText, nextKey_nil, fieldsText_nil, List.map_nil, List.append_nil,
      List.append_nil]
    rfl
  | @fill key value fields held hfill hparts ih =>
    rw [List.length_cons] at hfuel
    obtain ⟨fuel, rfl⟩ : ∃ n, fuel = n + 1 := ⟨fuel - 1, by omega⟩
    have hfresh : key ∉ keys.reverse := by
      rw [List.mem_reverse]
      exact fun hk => (List.nodup_append.mp hnodup).2.2 key hk key List.mem_cons_self rfl
    have hsplit : keys ++ List.map (·.1) ((key, value) :: fields) =
        keys ++ [key] ++ fields.map (·.1) := by simp
    obtain ⟨slot, set, hslot, hread, hfills⟩ := hfill
    obtain ⟨hunset, hset⟩ := hfills keys.reverse hfresh
    have hvalue : slot.read.ofText depth (value.chars ++ (fieldsText false fields ++ rest)) =
        .ok (set, fieldsText false fields ++ rest) := hread _ (breaks_fieldsText fields rest)
    rw [hsplit] at hnodup ⊢
    have hmore := ih (keys ++ [key]) hnodup false fuel (by omega) before
    rw [List.reverse_concat] at hmore
    rw [heldOfText, keyOfText, nextKey_cons]
    simp only [valueOfText, scanned, locate, Except.mapError, bind, Except.bind, colon_cons,
      slotFor_of_fills hslot hunset, hvalue, hset, hmore]
  | @hold key value doc fields held hslot hafter hread hparts ih =>
    rw [List.length_cons] at hfuel
    obtain ⟨fuel, rfl⟩ : ∃ n, fuel = n + 1 := ⟨fuel - 1, by omega⟩
    have hsplit : keys ++ List.map (·.1) ((key, value) :: fields) =
        keys ++ [key] ++ fields.map (·.1) := by simp
    have hvalue : readDocument.ofText depth (value.chars ++ (fieldsText false fields ++ rest)) =
        .ok (doc, fieldsText false fields ++ rest) := hread _ (breaks_fieldsText fields rest)
    have hnone : slotFor slots (after keys.reverse) key = .ok none := by
      rw [slotFor, hslot]
    rw [hsplit] at hnodup ⊢
    have hmore := ih (keys ++ [key]) hnodup false fuel (by omega) ((key, doc) :: before)
    rw [List.reverse_concat, hafter] at hmore
    rw [heldOfText, keyOfText, nextKey_cons]
    simp only [valueOfText, scanned, locate, Except.mapError, bind, Except.bind, colon_cons, hnone,
      hvalue, hmore, List.reverse_cons, List.append_assoc, List.singleton_append]

/-- An object whose members fill the draft in, or are held back as documents of which `Q` holds. -/
theorem reads_openRecord (name : String) {depth : ℕ} {Q : String → Document → Prop}
    {fields : Fields} (hnodup : (fields.map (·.1)).Nodup)
    (h : ∀ kv ∈ fields, Fills slots after kv.1 (.text depth kv.2) ∨
      slots.find? (·.name == kv.1) = none ∧ (∀ keys, after (kv.1 :: keys) = after keys) ∧
        ∃ doc, Reads readDocument doc (.text depth kv.2) ∧ Q kv.1 doc) :
    ∃ held : Held, Reads (readOpenRecord name slots (after []))
        (after (fields.map (·.1)).reverse, held) (.text (depth + 1) (.obj fields)) ∧
      (∀ kd ∈ held, Q kd.1 kd.2) ∧
      held.map (·.1) = (fields.map (·.1)).filter
        fun key => (slots.find? (·.name == key)).isNone := by
  obtain ⟨held, hparts, hQ, hkeys⟩ := exists_parts h
  refine ⟨held, fun rest hrest => ?_, hQ, hkeys⟩
  have hlen := length_le_fieldsText true fields
  have hmembers : heldOfText slots depth _ true (fieldsText true fields ++ rest) (after []) [] =
      .ok ((after (fields.map (·.1)).reverse, held), '\x7d' :: rest) :=
    heldOfText_text hparts [] hnodup true
      (('\x7b' :: (fieldsText true fields ++ rest)).length + 1)
      (by simp only [List.length_cons, List.length_append]; omega) [] rest
  rw [chars_obj, List.cons_append]
  unfold readOpenRecord
  dsimp only
  rw [skipSpace_cons (by rfl)]
  simp only [Document.nest, scanned, Except.mapError, bind, Except.bind, pure, Except.pure,
    hmembers, endOfObject_cons]

/-- Of own members and members of something else, the latter are held back. -/
theorem filter_apart {own others : List String}
    (hown : ∀ key ∈ own, (slots.find? (·.name == key)).isSome)
    (hothers : ∀ key ∈ others, slots.find? (·.name == key) = none) :
    (own ++ others).filter (fun key => (slots.find? (·.name == key)).isNone) = others := by
  have hnone : own.filter (fun key => (slots.find? (·.name == key)).isNone) = [] :=
    List.filter_eq_nil_iff.mpr fun key hkey => by
      simpa using Option.isSome_iff_ne_none.mp (hown key hkey)
  have hall : others.filter (fun key => (slots.find? (·.name == key)).isNone) = others :=
    List.filter_eq_self.mpr fun key hkey => by simpa using hothers key hkey
  rw [List.filter_append, hnone, hall, List.nil_append]

end Fills

/-- A field with a default, of which the member may be left out when the field is as the default. -/
theorem getD_ite {α : Type} {p : Prop} [Decidable p] {a default : α} (h : ¬ p → a = default) :
    (if p then some a else none).getD default = a := by
  split
  · rfl
  · rename_i hp
    exact (h hp).symm

/-- A field that is nothing unless its member is there. -/
theorem getD_optional {α : Type} {p : Prop} [Decidable p] {o : Option α} (h : ∀ a, o = some a → p) :
    (if p then some o else none).getD none = o := by
  refine getD_ite fun hp => ?_
  cases o with
  | none => rfl
  | some a => exact absurd (h a rfl) hp

/-! ### The order of the members -/

theorem Fields.get?_of_mem {fields : Fields} (hnodup : (fields.map (·.1)).Nodup) {key : String}
    {value : Json} (h : (key, value) ∈ fields) : fields.get? key = some value := by
  induction fields with
  | nil => cases h
  | cons kv fields ih =>
    obtain ⟨k, v⟩ := kv
    obtain ⟨hfresh, hnodup⟩ := List.nodup_cons.mp hnodup
    rw [Fields.get?]
    rcases List.mem_cons.mp h with heq | h
    · cases heq
      rw [if_pos rfl]
    · have hmem : key ∈ fields.map (·.1) := List.mem_map_of_mem (f := (·.1)) h
      have hne : k ≠ key := by
        rintro rfl
        exact hfresh hmem
      rw [if_neg hne, ih hnodup h]

theorem Fields.insert_perm {fields : Fields} {key : String} (value : Json)
    (h : key ∉ fields.map (·.1)) : (fields.insert key value).Perm ((key, value) :: fields) := by
  induction fields with
  | nil => exact List.Perm.refl _
  | cons kv fields ih =>
    rw [List.map_cons, List.mem_cons, not_or] at h
    rw [Fields.insert]
    split
    · exact List.Perm.refl _
    · rw [if_neg h.1]
      exact ((ih h.2).cons kv).trans (List.Perm.swap (key, value) kv fields)

/-- Sorting members by their keys only changes their order. -/
theorem Fields.ofList_perm {pairs : Fields} (h : (pairs.map (·.1)).Nodup) :
    (Fields.ofList pairs).Perm pairs := by
  unfold Fields.ofList
  induction pairs using List.reverseRecOn with
  | nil => exact List.Perm.refl _
  | append_singleton pairs kv ih =>
    rw [List.map_append, List.nodup_append] at h
    have hpairs := ih h.1
    have hfresh : kv.1 ∉ (pairs.foldl (fun fields kv => Fields.insert fields kv.1 kv.2) []).map
        (·.1) := by
      rw [(hpairs.map (·.1)).mem_iff]
      exact fun hk => h.2.2 kv.1 hk kv.1 (List.mem_singleton_self _) rfl
    rw [List.foldl_append]
    exact ((Fields.insert_perm kv.2 hfresh).trans (hpairs.cons kv)).trans
      (List.perm_append_singleton kv pairs).symm

/-! ### Tags -/

section Tags

variable {α : Type} {tag : String} {table : List (String × α)} {origin : Origin} {a : α}

theorem takeTag_some {held : Held} (h : ∀ kd ∈ held, kd.1 ≠ tag) (before : Held) :
    takeTag tag table origin held (some a) before = .ok (a, before.reverse ++ held) := by
  induction held generalizing before with
  | nil => simp [takeTag]
  | cons kd held ih =>
    obtain ⟨k, d⟩ := kd
    rw [takeTag, if_neg (h (k, d) List.mem_cons_self),
      ih fun kd hkd => h kd (List.mem_cons_of_mem _ hkd)]
    simp

/-- The tag is taken out of the members wherever it stands. -/
theorem takeTag_none {held : Held} (hmem : tag ∈ held.map (·.1)) (hnodup : (held.map (·.1)).Nodup)
    (htag : ∀ kd ∈ held, kd.1 = tag → readTag table origin kd.2 = .ok a) (before : Held) :
    takeTag tag table origin held none before =
      .ok (a, before.reverse ++ held.filter (·.1 != tag)) := by
  induction held generalizing before with
  | nil => exact absurd hmem List.not_mem_nil
  | cons kd held ih =>
    obtain ⟨k, d⟩ := kd
    obtain ⟨hfresh, hnodup⟩ := List.nodup_cons.mp hnodup
    rw [takeTag]
    by_cases hk : k = tag
    · have hrest : ∀ kd ∈ held, kd.1 ≠ tag := by
        intro kd hkd heq
        have hmem := List.mem_map_of_mem (f := (·.1)) hkd
        rw [heq, ← hk] at hmem
        exact hfresh hmem
      have hread : readTag table origin d = .ok a := htag (k, d) List.mem_cons_self hk
      have hall : held.filter (·.1 != tag) = held :=
        List.filter_eq_self.mpr fun kd hkd => by simpa using hrest kd hkd
      rw [if_pos hk, List.filter_cons_of_neg (by simp [hk]), hall]
      simp only [Option.isSome_none, Bool.false_eq_true, if_false, hread, bind, Except.bind,
        takeTag_some hrest before]
    · have hmem' : tag ∈ held.map (·.1) := (List.mem_cons.mp hmem).resolve_left (Ne.symm hk)
      rw [if_neg hk, List.filter_cons_of_pos (by simpa using hk),
        ih hmem' hnodup fun kd hkd => htag kd (List.mem_cons_of_mem _ hkd)]
      simp

variable {δ : Type} {slots : List (Slot δ)} {after : List String → δ}

/-- A member that was held back is the tag, with the given name, or fills the draft in. -/
def TagOrFills (tag name : String) (slots : List (Slot δ)) (after : List String → δ) (key : String)
    (doc : Document) : Prop :=
  (key = tag → doc = .str name) ∧ (key ≠ tag → Fills slots after key (.held doc))

/-- The tag and the members next to it, in any order, give the constructor and the whole draft. -/
theorem takeTag_members {name : String} {held : Held} {names : List String}
    (hname : variant table name = .ok a) (hkeys : (held.map (·.1)).Perm (tag :: names))
    (hnodup : (tag :: names).Nodup)
    (h : ∀ kd ∈ held, TagOrFills tag name slots after kd.1 kd.2) :
    ∃ members keys, takeTag tag table .held held none [] = .ok (a, members) ∧
      membersOfDocument slots .held members (after []) = .ok (after keys) ∧
      ∀ key ∈ names, key ∈ keys := by
  have hnodup' := hkeys.nodup_iff.mpr hnodup
  have htake : takeTag tag table .held held none [] = .ok (a, held.filter (·.1 != tag)) := by
    refine takeTag_none (hkeys.mem_iff.mpr List.mem_cons_self) hnodup' (fun kd hkd hk => ?_) []
    rw [(h kd hkd).1 hk]
    exact hname
  have hmembers : membersOfDocument slots .held (held.filter (·.1 != tag)) (after []) =
      .ok (after ((held.filter (·.1 != tag)).map (·.1)).reverse) := by
    refine membersOfDocument_held (fun kd hkd => ?_) []
      (hnodup'.sublist (List.filter_sublist.map _))
    obtain ⟨hkd, hk⟩ := List.mem_filter.mp hkd
    exact (h kd hkd).2 (by simpa using hk)
  refine ⟨_, _, htake, hmembers, fun key hkey => ?_⟩
  obtain ⟨kd, hkd, rfl⟩ := List.mem_map.mp (hkeys.mem_iff.mpr (List.mem_cons_of_mem tag hkey))
  have hne : kd.1 ≠ tag := by
    intro heq
    exact (List.nodup_cons.mp hnodup).1 (heq ▸ hkey)
  exact List.mem_reverse.mpr (List.mem_map_of_mem (List.mem_filter.mpr ⟨hkd, by simpa using hne⟩))

end Tags

end Workflow.Json
