import Workflow.Json.Reading

/-! Records: objects, or sequences, of named fields in a fixed order. -/
namespace Workflow.Json

/-- A field of a record that is being read into a draft `δ`. -/
structure Slot (δ : Type) where
  name : String
  /-- Whether a sequence may end before the field. -/
  optional : Bool
  isSet : δ → Bool
  /-- Read the field, as a change of the draft. -/
  read : Reader (δ → δ)

/-- A slot whose reader fills an optional field of the draft. -/
def Slot.of {δ α : Type} (name : String) (optional : Bool) (get : δ → Option α)
    (set : δ → α → δ) (read : Reader α) : Slot δ :=
  ⟨name, optional, fun d => (get d).isSome, read.map fun a d => set d a⟩

/-- The slot of a member, if it has one; it must not be set. -/
def slotFor {δ : Type} (slots : List (Slot δ)) (draft : δ) (key : String) :
    ReadResult (Option (Slot δ)) :=
  match slots.find? (·.name == key) with
  | none => .ok none
  | some slot => if slot.isSet draft then refuse (.duplicateField key) else .ok (some slot)

/-- Members of an object from the next one on; those without a slot are passed over. The fuel is the
length of the text. -/
def membersOfText {δ : Type} (slots : List (Slot δ)) (depth : Nat) :
    Nat → Bool → List Char → δ → ReadResult (δ × List Char)
  | 0, _, _, _ => scanned (.error (.behind .endInObject []))
  | fuel + 1, first, s, draft => do
    match ← keyOfText first s with
    | none => return (draft, s)
    | some (key, t) => match ← slotFor slots draft key with
      | some slot =>
        let (set, rest) ← valueOfText slot.read depth key t
        membersOfText slots depth fuel false rest (set draft)
      | none =>
        let t ← scanned (colon t)
        let rest ← locate [.member key] (scanned (skipValue t))
        membersOfText slots depth fuel false rest draft

/-- Members in their order; those without a slot are passed over. -/
def membersOfDocument {δ : Type} (slots : List (Slot δ)) (origin : Origin) :
    List (String × Document) → δ → ReadResult δ
  | [], draft => .ok draft
  | (key, doc) :: rest, draft => do
    match ← slotFor slots draft key with
    | some slot =>
      let set ← origin.locate [.member key] (slot.read.ofDocument origin doc)
      membersOfDocument slots origin rest (set draft)
    | none => membersOfDocument slots origin rest draft

/-- Items of a sequence in the order of the slots, of which the next one is the given one. -/
def sequenceOfText {δ : Type} (expected : String) (depth : Nat) :
    List (Slot δ) → Nat → List Char → δ → ReadResult (δ × List Char)
  | [], _, s, draft => .ok (draft, s)
  | slot :: slots, n, s, draft => do
    match ← scanned (nextItem (n == 0) s) with
    | some t =>
      let (set, rest) ← locate [.item n] (slot.read.ofText depth t)
      sequenceOfText expected depth slots (n + 1) rest (set draft)
    | none =>
      if slot.optional then sequenceOfText expected depth slots (n + 1) s draft
      else refuse (.invalidLength n expected)

/-- Items of a sequence in the order of the slots, with the items that are left. -/
def sequenceOfDocument {δ : Type} (expected : String) (origin : Origin) :
    List (Slot δ) → Nat → List Document → δ → ReadResult (δ × List Document)
  | [], _, items, draft => .ok (draft, items)
  | slot :: slots, n, item :: items, draft => do
    let set ← origin.locate [.item n] (slot.read.ofDocument origin item)
    sequenceOfDocument expected origin slots (n + 1) items (set draft)
  | slot :: slots, n, [], draft =>
    if slot.optional then sequenceOfDocument expected origin slots (n + 1) [] draft
    else refuse (.invalidLength n expected)

/-- A number of elements. -/
def elements (n : Nat) : String := toString n ++ (if n = 1 then " element" else " elements")

/-- The error of a sequence that is longer than its record, which does not matter in settings. -/
def surplus (origin : Origin) (slots given : Nat) : ReadResult Unit :=
  if given ≤ slots then .ok ()
  else match origin with
    | .held => refuse (.invalidLength given (elements slots ++ " in sequence"))
    | .value => refuse (.invalidLength given "fewer elements in array")
    | .table => .ok ()

/-- A record of a sequence, called `name` in messages. -/
def recordOfItems {δ : Type} (name : String) (slots : List (Slot δ)) (draft : δ) (origin : Origin)
    (items : List Document) : ReadResult δ := do
  let expected := name ++ " with " ++ elements slots.length
  let (draft, _) ← sequenceOfDocument expected origin slots 0 items draft
  surplus origin slots.length items.length
  return draft

/-- Read a record, called `name` in messages, given as an object or as a sequence. -/
def readRecord {δ : Type} (name : String) (slots : List (Slot δ)) (draft : δ) : Reader δ where
  ofText depth s := match skipSpace s with
    | '\x7b' :: r => do
      let depth ← scanned (Document.nest depth ('\x7b' :: r))
      let (draft, rest) ← membersOfText slots depth (s.length + 1) true r draft
      return (draft, ← scanned (endOfObject rest))
    | '[' :: r => do
      let depth ← scanned (Document.nest depth ('[' :: r))
      let expected := name ++ " with " ++ elements slots.length
      let (draft, rest) ← sequenceOfText expected depth slots 0 r draft
      return (draft, ← scanned (endOfList rest))
    | s => mismatchText name s
  ofDocument origin d := match d with
    | .obj fields => membersOfDocument slots origin fields draft
    | .arr items => recordOfItems name slots draft origin items
    | d => d.mismatch name

/-- The value of a field that must be there. -/
def required {α : Type} (name : String) : Option α → ReadResult α
  | some a => .ok a
  | none => refuse (.missingField name)

/-- Members that are held back until the type of their owner is known, in their order. -/
abbrev Held := List (String × Document)

/-- Members of an object from the next one on: those with a slot are read, all others are held back,
the last one first. The fuel is the length of the text. -/
def heldOfText {δ : Type} (slots : List (Slot δ)) (depth : Nat) :
    Nat → Bool → List Char → δ → Held → ReadResult ((δ × Held) × List Char)
  | 0, _, _, _, _ => scanned (.error (.behind .endInObject []))
  | fuel + 1, first, s, draft, held => do
    match ← keyOfText first s with
    | none => return ((draft, held.reverse), s)
    | some (key, t) => match ← slotFor slots draft key with
      | some slot =>
        let (set, rest) ← valueOfText slot.read depth key t
        heldOfText slots depth fuel false rest (set draft) held
      | none =>
        let (doc, rest) ← valueOfText readDocument depth key t
        heldOfText slots depth fuel false rest draft ((key, doc) :: held)

/-- Members in their order: those with a slot are read, all others are held back. -/
def heldOfDocument {δ : Type} (slots : List (Slot δ)) (origin : Origin) :
    List (String × Document) → δ → Held → ReadResult (δ × Held)
  | [], draft, held => .ok (draft, held.reverse)
  | (key, doc) :: rest, draft, held => do
    match ← slotFor slots draft key with
    | some slot =>
      let set ← origin.locate [.member key] (slot.read.ofDocument origin doc)
      heldOfDocument slots origin rest (set draft) held
    | none => heldOfDocument slots origin rest draft ((key, doc) :: held)

/-- Read a record, called `name` in messages, part of whose members belong to something else. -/
def readOpenRecord {δ : Type} (name : String) (slots : List (Slot δ)) (draft : δ) :
    Reader (δ × Held) where
  ofText depth s := match skipSpace s with
    | '\x7b' :: r => do
      let depth ← scanned (Document.nest depth ('\x7b' :: r))
      let (result, rest) ← heldOfText slots depth (s.length + 1) true r draft []
      return (result, ← scanned (endOfObject rest))
    | s => mismatchText name s
  ofDocument origin d := match d with
    | .obj fields => heldOfDocument slots origin fields draft []
    | d => d.mismatch name

/-- The constructor that a tag names; one that was held back may do that by its place. -/
def readTag {α : Type} (table : List (String × α)) (origin : Origin) : Document → ReadResult α
  | .str s => variant table s
  | .num (.int n) =>
    if n < 0 ∨ origin ≠ .held then (Document.num (.int n)).mismatch "variant identifier"
    else match table[n.toNat]? with
      | some (_, a) => .ok a
      | none => refuse (.invalidValue (Document.describeNumber (.int n))
          ("variant index 0 <= i < " ++ toString table.length))
  | d => d.mismatch "variant identifier"

/-- Take the tag out of members. It is read where it stands. -/
def takeTag {α : Type} (tag : String) (table : List (String × α)) (origin : Origin) :
    Held → Option α → Held → ReadResult (α × Held)
  | [], none, _ => refuse (.missingField tag)
  | [], some a, rest => .ok (a, rest.reverse)
  | (key, doc) :: more, found, rest =>
    if key = tag then
      if found.isSome then refuse (.duplicateField tag)
      else do takeTag tag table origin more (some (← readTag table origin doc)) rest
    else takeTag tag table origin more found ((key, doc) :: rest)

end Workflow.Json
