import Workflow.Node.Format
import Workflow.Proofs.Json.Members

/-! Nodes in texts: a node is read back from its text, in whatever order its members are written. -/
namespace Workflow

open Json

/-- Reading what is printed of the value gives the value. -/
def Single.ReadsBack (x : Single) : Prop :=
  ∃ n m, x.toNumber? = some n ∧ Numeral.readSigned n.text.toList = .ok (m, []) ∧
    Single.ofNumber m = x

theorem OutputFormat.lookup_name (format : OutputFormat) :
    OutputFormat.table.lookup format.name = some format := by
  cases format <;> rfl

theorem FieldKind.lookup_name (kind : FieldKind) :
    FieldKind.table.lookup kind.name = some kind := by
  cases kind <;> rfl

theorem ErrorPolicy.lookup_name (policy : ErrorPolicy) :
    ErrorPolicy.table.lookup policy.name = some policy := by
  cases policy <;> rfl

theorem NodeType.lookup_name (type : NodeType) :
    NodeType.table.lookup type.name = some type := by
  cases type <;> rfl

namespace Payload

/-- What the payload carries is of so many levels at the most, its integers are in their ranges, its
other numbers are as `good` says, and its temperature as `fine` says. -/
def Within (good : Binary → Prop) (fine : Single → Prop) (depth : ℕ) : Payload → Prop
  | llm c => (∀ x ∈ c.temperature, fine x) ∧ ∀ n ∈ c.maxTokens, n < Nat.pow 2 32
  | tool _ arguments => Json.Within good depth arguments
  | http c => c.headers.Pairwise fun p q => p.1 < q.1
  | start _ | finish | condition _ | code _ _ | information _ => True

/-- What the payload carries is of so many levels at the most, whatever its numbers are. -/
abbrev Fits : ℕ → Payload → Prop := Within (fun _ => True) fun _ => True

/-- What the payload carries can be read back from a text of which so many levels are left. -/
abbrev Legible : ℕ → Payload → Prop := Within (fun x => (Number.real x).ReadsBack) Single.ReadsBack

/-- The draft of the payload when the members of the given keys have been read. -/
def drafted : Payload → List String → Draft
  | start required, keys => { required := if "required" ∈ keys then some required else none }
  | finish, _ => {}
  | condition expression, keys =>
    { expression := if "expression" ∈ keys then some expression else none }
  | llm c, keys => {
      model := if "model" ∈ keys then some c.model else none
      systemPrompt := if "systemPrompt" ∈ keys then some c.systemPrompt else none
      prompt := if "prompt" ∈ keys then some c.prompt else none
      outputSchema := if "outputSchema" ∈ keys then some c.outputSchema else none
      temperature := if "temperature" ∈ keys then some c.temperature else none
      maxTokens := if "maxTokens" ∈ keys then some c.maxTokens else none }
  | tool name arguments, keys => {
      tool := if "tool" ∈ keys then some name else none
      arguments := if "arguments" ∈ keys then some arguments else none }
  | code language source, keys => {
      language := if "language" ∈ keys then some language else none
      code := if "code" ∈ keys then some source else none }
  | http c, keys => {
      method := if "method" ∈ keys then some c.method else none
      url := if "url" ∈ keys then some c.url else none
      headers := if "headers" ∈ keys then some c.headers else none
      body := if "body" ∈ keys then some c.body else none }
  | information content, keys => { content := if "content" ∈ keys then some content else none }

/-- The member is held back as a document that fills the draft in. -/
def Holds (payload : Payload) (depth : ℕ) (kv : String × Json) : Prop :=
  ∃ doc, Reads readDocument doc (.text depth kv.2) ∧
    Fills (slots payload.type) payload.drafted kv.1 (.held doc)

theorem holds_of_legible {payload : Payload} {depth : ℕ} {key : String} {value : Json}
    (hvalue : Json.Legible depth value)
    (hfills : Fills (slots payload.type) payload.drafted key (.held (Document.ofJson value))) :
    payload.Holds depth (key, value) := ⟨_, reads_document hvalue, hfills⟩

theorem legible_nullable_str {depth : ℕ} (o : Option String) :
    Json.Legible depth (nullable .str o) := by
  cases o with
  | none => exact .null
  | some s => exact .str s

theorem reads_nullable_str {o : Option String} {src : Source} (hsrc : src.Gives (nullable .str o)) :
    Reads (readOption readText) o src := by
  cases o with
  | none => exact reads_none hsrc
  | some s => exact (reads_text hsrc).some hsrc Json.noConfusion

theorem temperature_holds {c : LlmConfig} {depth : ℕ} (h : ∀ x ∈ c.temperature, x.ReadsBack) :
    (llm c).Holds depth ("temperature", nullable Single.toJson c.temperature) := by
  obtain ⟨doc, hread, hdoc⟩ : ∃ doc,
      Reads readDocument doc (.text depth (nullable Single.toJson c.temperature)) ∧
        Reads (readOption readSingle) c.temperature (.held doc) := by
    cases hc : c.temperature with
    | none => exact ⟨.null, reads_document .null, rfl⟩
    | some x =>
      obtain ⟨n, m, hn, hread, hx⟩ := h x hc
      have hjson : nullable Single.toJson (some x) = .num n := by
        simp [nullable, Single.toJson, hn]
      rw [hjson]
      refine ⟨.num m, reads_document_num hread, ?_⟩
      show Except.ok (some (Single.ofNumber m)) = _
      rw [hx]
  exact ⟨doc, hread, fills_of hdoc rfl fun keys hkeys => by simp [drafted, hkeys]⟩

theorem maxTokens_holds {c : LlmConfig} {depth : ℕ} (h : ∀ n ∈ c.maxTokens, n < Nat.pow 2 32) :
    (llm c).Holds depth ("maxTokens", nullable .ofNat c.maxTokens) := by
  have hread : Json.Legible depth (nullable .ofNat c.maxTokens) ∧
      Reads (readOption (readNatural 32 "u32")) c.maxTokens
        (.held (Document.ofJson (nullable .ofNat c.maxTokens))) := by
    cases hc : c.maxTokens with
    | none => exact ⟨.null, reads_none rfl⟩
    | some n =>
      have hn := h n hc
      have hnatural : Reads (readNatural 32 "u32") n (.held (Document.ofJson (.ofNat n))) :=
        reads_natural rfl hn (by decide)
      exact ⟨legible_ofNat hn (by decide), hnatural.some (j := .ofNat n) rfl Json.noConfusion⟩
  exact holds_of_legible hread.1 (fills_of hread.2 rfl
    fun keys hkeys => by simp [drafted, hkeys])

theorem llm_holds {c : LlmConfig} {depth : ℕ} (h : (llm c).Legible depth) :
    ∀ kv ∈ (llm c).fields, (llm c).Holds depth kv := by
  intro kv hkv
  simp only [fields, List.mem_cons, List.not_mem_nil, or_false] at hkv
  rcases hkv with rfl | rfl | rfl | rfl | rfl | rfl
  · exact holds_of_legible (legible_nullable_str c.model) (fills_of (reads_nullable_str rfl) rfl
      fun keys hkeys => by simp [drafted, hkeys])
  · exact holds_of_legible (legible_nullable_str c.systemPrompt)
      (fills_of (reads_nullable_str rfl) rfl
        fun keys hkeys => by simp [drafted, hkeys])
  · exact holds_of_legible (.str c.prompt) (fills_of (reads_text rfl) rfl
      fun keys hkeys => by simp [drafted, hkeys])
  · exact holds_of_legible (.str c.outputSchema.name)
      (fills_of (reads_variant rfl c.outputSchema.lookup_name) rfl
        fun keys hkeys => by simp [drafted, hkeys])
  · exact temperature_holds h.1
  · exact maxTokens_holds h.2

theorem http_holds {c : HttpConfig} {depth : ℕ} (h : (http c).Legible (depth + 1)) :
    ∀ kv ∈ (http c).fields, (http c).Holds (depth + 1) kv := by
  intro kv hkv
  simp only [fields, List.mem_cons, List.not_mem_nil, or_false] at hkv
  rcases hkv with rfl | rfl | rfl | rfl
  · exact holds_of_legible (.str c.method) (fills_of (reads_text rfl) rfl
      fun keys hkeys => by simp [drafted, hkeys])
  · exact holds_of_legible (.str c.url) (fills_of (reads_text rfl) rfl
      fun keys hkeys => by simp [drafted, hkeys])
  · exact holds_of_legible (legible_encodePairs h fun p hp => .str p.2)
      (fills_of (reads_map rfl trivial h fun p hp => reads_text rfl) rfl
        fun keys hkeys => by simp [drafted, hkeys])
  · exact holds_of_legible (legible_nullable_str c.body) (fills_of (reads_nullable_str rfl) rfl
      fun keys hkeys => by simp [drafted, hkeys])

/-- Every member of a payload is held back as a document that fills the draft in. -/
theorem Legible.holds {payload : Payload} {depth : ℕ} (h : payload.Legible (depth + 1)) :
    ∀ kv ∈ payload.fields, payload.Holds (depth + 1) kv := by
  cases payload with
  | llm c => exact llm_holds h
  | http c => exact http_holds h
  | finish => exact fun kv hkv => absurd hkv List.not_mem_nil
  | start required =>
    rintro kv hkv
    obtain rfl := List.mem_singleton.mp hkv
    exact holds_of_legible (legible_ofStrings required) (fills_of (reads_texts rfl trivial) rfl
      fun keys hkeys => by simp [drafted, hkeys])
  | condition expression =>
    rintro kv hkv
    obtain rfl := List.mem_singleton.mp hkv
    exact holds_of_legible (.str expression) (fills_of (reads_text rfl) rfl
      fun keys hkeys => by simp [drafted, hkeys])
  | tool name arguments =>
    rintro kv hkv
    rcases List.mem_pair.mp hkv with rfl | rfl
    · exact holds_of_legible (.str name) (fills_of (reads_text rfl) rfl
        fun keys hkeys => by simp [drafted, hkeys])
    · exact holds_of_legible h (fills_of (reads_any_held h) rfl
        fun keys hkeys => by simp [drafted, hkeys])
  | code language source =>
    rintro kv hkv
    rcases List.mem_pair.mp hkv with rfl | rfl
    · exact holds_of_legible (.str language) (fills_of (reads_text rfl) rfl
        fun keys hkeys => by simp [drafted, hkeys])
    · exact holds_of_legible (.str source) (fills_of (reads_text rfl) rfl
        fun keys hkeys => by simp [drafted, hkeys])
  | information content =>
    rintro kv hkv
    obtain rfl := List.mem_singleton.mp hkv
    exact holds_of_legible (legible_nullable_str content) (fills_of (reads_nullable_str rfl) rfl
      fun keys hkeys => by simp [drafted, hkeys])

theorem fields_nodup (payload : Payload) : (payload.fields.map (·.1)).Nodup := by
  cases payload <;> simp [fields]

/-- The names of the members that payloads may have. -/
def memberNames : List String := ["required", "expression", "model", "systemPrompt", "prompt",
  "outputSchema", "temperature", "maxTokens", "tool", "arguments", "language", "code", "method",
  "url", "headers", "body", "content"]

theorem fields_names (payload : Payload) : ∀ key ∈ payload.fields.map (·.1), key ∈ memberNames := by
  cases payload <;> simp [fields, memberNames]

theorem memberNames_apart : ∀ key ∈ memberNames, key ≠ "type" ∧
    Node.slots.find? (·.name == key) = none := by decide

/-- The draft of which all members have been read is the draft of the payload. -/
theorem ofDraft_drafted {payload : Payload} {keys : List String}
    (h : ∀ kv ∈ payload.fields, kv.1 ∈ keys) :
    ofDraft (payload.drafted keys) payload.type = .ok payload := by
  cases payload <;> simp [fields] at h <;>
    simp [ofDraft, drafted, type, required, bind, Except.bind, pure, Except.pure, h]

theorem type_nodup (payload : Payload) : ("type" :: payload.fields.map (·.1)).Nodup :=
  List.nodup_cons.mpr ⟨fun hmem => (memberNames_apart _ (payload.fields_names _ hmem)).1 rfl,
    payload.fields_nodup⟩

/-- The payload is read from its members and the type of its node as they were held back. -/
theorem ofHeld_eq {payload : Payload} {held : Held}
    (hkeys : (held.map (·.1)).Perm ("type" :: payload.fields.map (·.1)))
    (h : ∀ kd ∈ held,
      TagOrFills "type" payload.type.name (slots payload.type) payload.drafted kd.1 kd.2) :
    ofHeld held = .ok payload := by
  have hname : variant NodeType.table payload.type.name = .ok payload.type := by
    rw [variant, payload.type.lookup_name]
  obtain ⟨members, keys, htake, hmembers, hall⟩ :=
    takeTag_members hname hkeys payload.type_nodup h
  have hempty : payload.drafted [] = {} := by
    cases payload <;> rfl
  have hdraft : ofDraft (payload.drafted keys) payload.type = .ok payload :=
    ofDraft_drafted fun kv hkv => hall kv.1 (List.mem_map_of_mem hkv)
  rw [hempty] at hmembers
  unfold ofHeld
  simp only [htake, hmembers, bind, Except.bind, hdraft]

end Payload

namespace Node

/-- The members that the draft of a node has. -/
def sharedMembers (node : Node) : Fields :=
  [("id", .str node.id), ("name", .str node.name), ("description", .str node.description),
      ("usageFields", .ofStrings node.usageFields),
      ("generateFields", .obj (encodePairs (fun kind => .str kind.name) node.generateFields)),
      ("onError", .str node.onError.name)]
    ++ (if node.metadata.isNull then [] else [("metadata", node.metadata)])
    ++ optionalField "timeoutSecs" .ofNat node.timeoutSecs

/-- The members that say what the node does. -/
def kindMembers (node : Node) : Fields := ("type", .str node.type.name) :: node.payload.fields

def members (node : Node) : Fields := node.sharedMembers ++ node.kindMembers

theorem toJson_eq (node : Node) : ∃ fields : Fields, fields.Perm node.members ∧
    node.toJson = .obj (Fields.ofList fields) := by
  refine ⟨_, ?_, rfl⟩
  unfold members sharedMembers kindMembers
  generalize (if node.metadata.isNull then [] else [("metadata", node.metadata)]) = data
  generalize optionalField "timeoutSecs" .ofNat node.timeoutSecs = deadline
  simp only [List.append_assoc, List.cons_append, List.nil_append]
  rw [← List.append_assoc data, ← List.append_assoc data]
  exact List.perm_middle.symm.append_left [_, _, _, _, _, _]

/-- The names of the members that nodes share, and of the one that tells their kinds. -/
def memberNames : List String := ["id", "name", "description", "metadata", "usageFields",
  "generateFields", "onError", "timeoutSecs"]

theorem sharedMembers_names (node : Node) :
    ∀ key ∈ node.sharedMembers.map (·.1), key ∈ memberNames := by
  unfold sharedMembers
  cases node.metadata.isNull <;> cases node.timeoutSecs <;> simp [optionalField, memberNames]

theorem sharedMembers_nodup (node : Node) : (node.sharedMembers.map (·.1)).Nodup := by
  unfold sharedMembers
  cases node.metadata.isNull <;> cases node.timeoutSecs <;> simp [optionalField]

theorem memberNames_slots : ∀ key ∈ memberNames, (slots.find? (·.name == key)).isSome := by decide

theorem kindMembers_slots (node : Node) :
    ∀ key ∈ node.kindMembers.map (·.1), slots.find? (·.name == key) = none := by
  intro key hkey
  rcases List.mem_cons.mp hkey with rfl | hkey
  · rfl
  · exact (Payload.memberNames_apart key (node.payload.fields_names key hkey)).2

theorem members_nodup (node : Node) : (node.members.map (·.1)).Nodup := by
  rw [members, List.map_append, List.nodup_append]
  refine ⟨node.sharedMembers_nodup, node.payload.type_nodup, fun a ha b hb hab => ?_⟩
  -- Shared members have slots, and the others have none.
  have hslot := memberNames_slots a (node.sharedMembers_names a ha)
  rw [hab, node.kindMembers_slots b hb] at hslot
  cases hslot

/-- A node of which the parts are of so many levels at the most, its integers are in their ranges,
its other numbers are as `good` says, and its temperature as `fine` says. -/
structure Within (good : Binary → Prop) (fine : Single → Prop) (depth : ℕ) (node : Node) :
    Prop where
  metadata : Json.Within good depth node.metadata
  generateFields : node.generateFields.Pairwise fun p q => p.1 < q.1
  timeoutSecs : ∀ n ∈ node.timeoutSecs, n < Nat.pow 2 64
  payload : node.payload.Within good fine depth

/-- A node of which the parts are of so many levels at the most, whatever its numbers are. -/
abbrev Fits : ℕ → Node → Prop := Within (fun _ => True) fun _ => True

/-- A node that can be read back from a text of which so many levels are left inside of it. -/
abbrev Legible : ℕ → Node → Prop := Within (fun x => (Number.real x).ReadsBack) Single.ReadsBack

/-- The draft of the node when the members of the given keys have been read. -/
def drafted (node : Node) (keys : List String) : Draft where
  id := if "id" ∈ keys then some node.id else none
  name := if "name" ∈ keys then some node.name else none
  description := if "description" ∈ keys then some node.description else none
  metadata := if "metadata" ∈ keys then some node.metadata else none
  usageFields := if "usageFields" ∈ keys then some node.usageFields else none
  generateFields := if "generateFields" ∈ keys then some node.generateFields else none
  onError := if "onError" ∈ keys then some node.onError else none
  timeoutSecs := if "timeoutSecs" ∈ keys then some node.timeoutSecs else none

variable {node : Node} {depth : ℕ}

theorem drafted_cons {key : String} (h : key ∉ memberNames) (keys : List String) :
    node.drafted (key :: keys) = node.drafted keys := by
  have hne : ∀ name ∈ memberNames, (name ∈ key :: keys) = (name ∈ keys) := by
    intro name hname
    have hdiffer : name ≠ key := fun heq => h (heq ▸ hname)
    simp [hdiffer]
  simp only [drafted, hne _ (show "id" ∈ memberNames by decide),
    hne _ (show "name" ∈ memberNames by decide), hne _ (show "description" ∈ memberNames by decide),
    hne _ (show "metadata" ∈ memberNames by decide),
    hne _ (show "usageFields" ∈ memberNames by decide),
    hne _ (show "generateFields" ∈ memberNames by decide),
    hne _ (show "onError" ∈ memberNames by decide),
    hne _ (show "timeoutSecs" ∈ memberNames by decide)]

theorem Legible.shared_fills (h : node.Legible (depth + 1)) : ∀ kv ∈ node.sharedMembers,
    Fills slots node.drafted kv.1 (.text (depth + 1) kv.2) := by
  intro kv hkv
  simp only [sharedMembers, List.mem_append, List.mem_cons, List.not_mem_nil, or_false] at hkv
  rcases hkv with ((rfl | rfl | rfl | rfl | rfl | rfl) | hkv) | hkv
  · exact fills_of (reads_text rfl) rfl fun keys hkeys => by simp [drafted, hkeys]
  · exact fills_of (reads_text rfl) rfl fun keys hkeys => by simp [drafted, hkeys]
  · exact fills_of (reads_text rfl) rfl fun keys hkeys => by simp [drafted, hkeys]
  · exact fills_of (reads_texts rfl (Nat.succ_ne_zero depth)) rfl
      fun keys hkeys => by simp [drafted, hkeys]
  · exact fills_of (reads_map rfl (Nat.succ_ne_zero depth) h.generateFields fun p hp =>
        reads_variant rfl p.2.lookup_name) rfl
      fun keys hkeys => by simp [drafted, hkeys]
  · exact fills_of (reads_variant rfl node.onError.lookup_name) rfl
      fun keys hkeys => by simp [drafted, hkeys]
  · cases hn : node.metadata.isNull with
    | true => simp [hn] at hkv
    | false =>
      obtain rfl : kv = ("metadata", node.metadata) := by simpa [hn] using hkv
      exact fills_of (reads_any h.metadata) rfl fun keys hkeys => by simp [drafted, hkeys]
  · cases hn : node.timeoutSecs with
    | none => simp [hn, optionalField] at hkv
    | some secs =>
      obtain rfl : kv = ("timeoutSecs", .ofNat secs) := by simpa [hn, optionalField] using hkv
      have hsecs : Reads (readNatural 64 "u64") secs (.text (depth + 1) (.ofNat secs)) :=
        reads_natural rfl (h.timeoutSecs secs hn) (by decide)
      exact fills_of (hsecs.some (j := .ofNat secs) rfl Json.noConfusion) rfl
        fun keys hkeys => by simp [drafted, hkeys, hn]

theorem Legible.fills (h : node.Legible (depth + 1)) : ∀ kv ∈ node.members,
    Fills slots node.drafted kv.1 (.text (depth + 1) kv.2) ∨
      slots.find? (·.name == kv.1) = none ∧
        (∀ keys, node.drafted (kv.1 :: keys) = node.drafted keys) ∧
        ∃ doc, Reads readDocument doc (.text (depth + 1) kv.2) ∧
          TagOrFills "type" node.payload.type.name (Payload.slots node.payload.type)
            node.payload.drafted kv.1 doc := by
  intro kv hkv
  rcases List.mem_append.mp hkv with hkv | hkv
  · exact Or.inl (h.shared_fills kv hkv)
  right
  have hslot := node.kindMembers_slots kv.1 (List.mem_map_of_mem hkv)
  refine ⟨hslot, fun keys => drafted_cons (fun hmem => ?_) keys, ?_⟩
  · have hsome := memberNames_slots kv.1 hmem
    rw [hslot] at hsome
    cases hsome
  · rcases List.mem_cons.mp hkv with rfl | hkv
    · exact ⟨_, reads_document (.str _), fun _ => rfl, fun hne => absurd rfl hne⟩
    · have hname := node.payload.fields_names _ (List.mem_map_of_mem hkv)
      obtain ⟨doc, hread, hfills⟩ := Payload.Legible.holds h.payload kv hkv
      exact ⟨doc, hread, fun heq => absurd heq (Payload.memberNames_apart _ hname).1,
        fun _ => hfills⟩

/-- A node is read from its members in any order. -/
theorem Legible.reads (h : node.Legible (depth + 1)) {fields : Fields}
    (hfields : fields.Perm node.members) : Reads read node (.text (depth + 2) (.obj fields)) := by
  have hkeys := hfields.map (·.1)
  obtain ⟨held, hread, hholds, hheld⟩ := reads_openRecord "struct Node"
    (hkeys.nodup_iff.mpr node.members_nodup) fun kv hkv => h.fills kv (hfields.mem_iff.mp hkv)
  have hpart : (held.map (·.1)).Perm ("type" :: node.payload.fields.map (·.1)) := by
    have hown : ∀ key ∈ node.sharedMembers.map (·.1), (slots.find? (·.name == key)).isSome :=
      fun key hkey => memberNames_slots key (node.sharedMembers_names key hkey)
    have hkind := filter_apart hown node.kindMembers_slots
    rw [hheld, ← show node.kindMembers.map (·.1) = "type" :: node.payload.fields.map (·.1) from rfl,
      ← hkind, ← List.map_append]
    exact hkeys.filter _
  have hpayload := Payload.ofHeld_eq hpart hholds
  have hmem : ∀ key ∈ node.sharedMembers.map (·.1), key ∈ (fields.map (·.1)).reverse := by
    intro key hkey
    refine List.mem_reverse.mpr (hkeys.mem_iff.mpr ?_)
    rw [members, List.map_append]
    exact List.mem_append_left _ hkey
  have hid := hmem "id" (by simp [sharedMembers])
  have hname := hmem "name" (by simp [sharedMembers])
  have hdescription := hmem "description" (by simp [sharedMembers])
  have husage := hmem "usageFields" (by simp [sharedMembers])
  have hgenerate := hmem "generateFields" (by simp [sharedMembers])
  have hpolicy := hmem "onError" (by simp [sharedMembers])
  have hmetadata : (if "metadata" ∈ (fields.map (·.1)).reverse then some node.metadata
      else none).getD .null = node.metadata := by
    refine getD_ite fun habsent => ?_
    by_contra hne
    refine habsent (hmem "metadata" ?_)
    have hnull : node.metadata.isNull = false := by
      cases hm : node.metadata <;> simp_all [Json.isNull]
    simp [sharedMembers, hnull]
  have htimeout : (if "timeoutSecs" ∈ (fields.map (·.1)).reverse then some node.timeoutSecs
      else none).getD none = node.timeoutSecs :=
    getD_optional fun secs hsecs =>
      hmem "timeoutSecs" (by simp [sharedMembers, optionalField, hsecs])
  refine hread.andThen ?_
  simp only [drafted, if_pos hid, if_pos hname, if_pos hdescription, if_pos husage,
    if_pos hgenerate, if_pos hpolicy, hmetadata, htimeout, required, hpayload, Bind.bind,
    Except.bind, pure, Except.pure, Option.getD_some]

theorem toJson_written (node : Node) : ∃ fields : Fields, fields.Perm node.members ∧
    node.toJson = .obj fields := by
  obtain ⟨fields, hfields, hjson⟩ := node.toJson_eq
  have hnodup := (hfields.map (·.1)).nodup_iff.mpr node.members_nodup
  exact ⟨_, (Fields.ofList_perm hnodup).trans hfields, hjson⟩

end Node
end Workflow
