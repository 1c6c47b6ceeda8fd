import Mathlib.Data.List.Forall2
import Workflow.Proofs.Node.Written
import Workflow.Proofs.Text.Truncation
import Workflow.Run.Log

/-! Logs of runs. The log of a run stands in a file of its own below the directory of all logs, and
has one line for each event that the level admits, in the order of the events. Outputs of nodes are
cut where a character ends. -/
namespace Workflow.Log

/-! ### Outputs that are cut -/

/-- The text that is kept of a value, cut by steps that cannot always be done. -/
def brief? (limit : ℕ) (v : Json) : Option String :=
  (Text.truncate? limit v.chars).map String.ofList

/-- The steps that cut the text of a value can always be done. A text that has no more than
`limit` bytes is kept whole, and else three points stand behind the longest beginning of it that
has no more. -/
theorem brief_isLongest (limit : ℕ) (v : Json) :
    brief? limit v = some (brief limit v) ∧
    if (Text.encode v.chars).length ≤ limit then brief limit v = v.text
    else ∃ start, brief limit v = String.ofList (start ++ ['.', '.', '.']) ∧
      Text.IsLongest limit v.chars start := by
  refine ⟨by rw [brief?, Text.truncate?_eq]; rfl, ?_⟩
  rw [← Text.byteLength_eq_length_encode, brief, Text.truncate]
  split
  · rfl
  · exact ⟨_, rfl, Text.isLongest_takeBytes limit v.chars⟩

example : brief 6 (.str "aé漢") = "\"aé..." := by decide

/-! ### Lines -/

/-- The members of an object tell which event of which run it is about. -/
structure Describes (fields : Fields) (e : Event) : Prop where
  nodup : (fields.map (·.1)).Nodup
  runId : fields.get? "run_id" = some (.str e.runId)
  seq : fields.get? "seq" = some (.ofNat e.seq)
  type : fields.get? "event_type" = some (.str e.what.typeName)
  node : fields.get? "node_id" = e.what.node?.map .str

/-- What is logged of the happening can be read back: times are in range, and what a node puts out
as it works nests no more than the text of a line leaves room for. -/
def Readable : Happening → Prop
  | .workflowStart _ | .nodeStart _ _ _ | .nodeError _ _ => True
  | .nodeEnd _ _ elapsed | .workflowEnd _ _ _ elapsed => elapsed < Nat.pow 2 64
  | .nodeOutput _ data => Json.Legible 126 data

/-- A line that is an object of JSON on an event, with no line feed but the one that ends it.
Reading it gives an object on the same event. -/
def Tells (e : Event) (row : String) : Prop :=
  ∃ fields, row = (Json.obj fields).text ++ "\n" ∧ '\n' ∉ (Json.obj fields).text.toList ∧
    Describes fields e ∧ (e.seq < Nat.pow 2 64 → Readable e.what →
      ∃ found, Json.parse (Json.obj fields).text = .ok (.obj found) ∧ Describes found e)

theorem describes_record (e : Event) : Describes (record e) e := by
  cases hnode : e.what.node? with
  | none => constructor <;> simp [record, optionalField, hnode, Fields.get?]
  | some node => constructor <;> simp [record, optionalField, hnode, Fields.get?]

theorem Describes.ofList {fields : Fields} {e : Event} (h : Describes fields e) :
    Describes (Fields.ofList fields) e := by
  have hget := Fields.get?_ofList h.nodup
  have hkeys := (Json.Fields.ofList_perm h.nodup).map (·.1)
  exact ⟨hkeys.nodup_iff.mpr h.nodup, (hget _).trans h.runId, (hget _).trans h.seq,
    (hget _).trans h.type, (hget _).trans h.node⟩

theorem legible_ofPairs {depth : ℕ} {pairs : Fields} (hnodup : (pairs.map (·.1)).Nodup)
    (h : ∀ kv ∈ pairs, Json.Legible depth kv.2) : Json.Legible (depth + 1) (.ofPairs pairs) := by
  have hsorted : (Fields.ofList pairs).Sorted := Fields.Sorted.merge List.Pairwise.nil pairs
  exact .obj hsorted fun kv hkv => h kv ((Json.Fields.ofList_perm hnodup).mem_iff.mp hkv)

theorem legible_detail {what : Happening} (h : Readable what) : Json.Legible 126 (detail what) := by
  cases what with
  | workflowStart workflow => exact legible_ofPairs (by simp) (by simp; exact .str _)
  | nodeStart node type name => exact legible_ofPairs (by simp) (by simp; exact .str _)
  | nodeOutput node data => exact h
  | nodeEnd node output elapsed =>
    refine legible_ofPairs (by simp) ?_
    simp only [List.forall_mem_cons]
    exact ⟨Json.legible_ofNat h (by decide), .str _, List.forall_mem_nil _⟩
  | nodeError node error =>
    refine legible_ofPairs (by simp) ?_
    simp only [List.forall_mem_cons]
    exact ⟨.str _, .str _, List.forall_mem_nil _⟩
  | workflowEnd status output error elapsed =>
    refine legible_ofPairs (by simp) ?_
    simp only [List.forall_mem_cons]
    exact ⟨.str _, Payload.legible_nullable_str error, Json.legible_ofNat h (by decide),
      List.forall_mem_nil _⟩

theorem legible_record {e : Event} (hseq : e.seq < Nat.pow 2 64) (hwhat : Readable e.what) :
    ∀ kv ∈ record e, Json.Legible 126 kv.2 := by
  have hnode : ∀ kv ∈ optionalField "node_id" .str e.what.node?, Json.Legible 126 kv.2 := by
    cases e.what.node? with
    | none => exact List.forall_mem_nil _
    | some node => exact List.forall_mem_singleton.mpr (.str node)
  have hnumber : Json.Legible 126 (.ofNat e.seq) := Json.legible_ofNat hseq (by decide)
  simp only [record, List.forall_mem_append, List.forall_mem_cons]
  exact ⟨⟨⟨.str _, .str _, hnumber, .str _, List.forall_mem_nil _⟩, hnode⟩, legible_detail hwhat,
    List.forall_mem_nil _⟩

theorem tells_line (e : Event) : Tells e (line e) := by
  refine ⟨record e, rfl, ?_, describes_record e, fun hseq hwhat => ?_⟩
  · rw [Json.text, String.toList_ofList]
    exact (Json.clean_chars _).newline_not_mem
  · exact ⟨_, Json.parse_text_obj (legible_record hseq hwhat), (describes_record e).ofList⟩

/-- The events that a level admits: workflows always, nodes from the second level on, and what nodes
put out as they work from the third. -/
def Admits (level : ℕ) (what : Happening) : Prop :=
  what.typeName ∈ ["WORKFLOW_START", "WORKFLOW_END"] ∨
    what.typeName ∈ ["NODE_START", "NODE_END", "NODE_ERROR"] ∧ 2 ≤ level ∨
    what.typeName = "NODE_OUTPUT" ∧ 3 ≤ level

instance (level : ℕ) (what : Happening) : Decidable (Admits level what) :=
  inferInstanceAs (Decidable (_ ∨ _))

theorem admits_iff {level : ℕ} {what : Happening} : Admits level what ↔ levelOf what ≤ level := by
  cases what <;> simp [Admits, Happening.typeName, levelOf]

theorem lines_cons (level : ℕ) (e : Event) (events : List Event) :
    lines level (e :: events) =
      if Admits level e.what then line e :: lines level events else lines level events := by
  rw [lines, List.filterMap_cons, line?]
  by_cases h : levelOf e.what ≤ level
  · rw [if_pos h, if_pos (admits_iff.mpr h)]
    rfl
  · rw [if_neg h, if_neg (mt admits_iff.mp h)]
    rfl

/-- There is one line for each event that the level admits, in the order of the events. -/
theorem forall₂_lines (level : ℕ) (events : List Event) :
    List.Forall₂ Tells (events.filter fun e => Admits level e.what) (lines level events) := by
  induction events with
  | nil => exact .nil
  | cons e events ih =>
    rw [lines_cons, List.filter_cons]
    by_cases h : Admits level e.what
    · simpa [h] using List.Forall₂.cons (tells_line e) ih
    · simpa [h] using ih

/-- A higher level only puts lines in between. -/
theorem lines_sublist {level higher : ℕ} (h : level ≤ higher) (events : List Event) :
    (lines level events).Sublist (lines higher events) := by
  induction events with
  | nil => exact .slnil
  | cons e events ih =>
    rw [lines_cons, lines_cons]
    by_cases hlevel : Admits level e.what
    · have hhigher : Admits higher e.what := admits_iff.mpr ((admits_iff.mp hlevel).trans h)
      rw [if_pos hlevel, if_pos hhigher]
      exact ih.cons_cons _
    · rw [if_neg hlevel]
      split
      · exact ih.cons _
      · exact ih

/-! ### Names -/

/-- The name of a single file that has nothing but plain letters, digits, underscores
and hyphens. -/
def IsFileName (name : String) : Prop :=
  name ≠ "" ∧ ∀ c ∈ name.toList, c.isAlphanum = true ∨ c = '_' ∨ c = '-'

theorem isFileName_safeName (id : String) {default : String} (h : IsFileName default) :
    IsFileName (safeName id default) := by
  unfold safeName
  split
  · exact h
  · rename_i hid
    refine ⟨fun hempty => hid ?_, fun c hc => ?_⟩
    · have hchars := congrArg String.toList hempty
      rw [String.toList_ofList, String.toList_empty, List.map_eq_nil_iff] at hchars
      simpa using hchars
    · rw [String.toList_ofList] at hc
      obtain ⟨d, -, rfl⟩ := List.mem_map.mp hc
      split
      · rename_i hd
        simpa [or_assoc] using hd
      · exact .inr (.inl rfl)

theorem isFileName_directoryOf (workflow : String) : IsFileName (directoryOf workflow) :=
  isFileName_safeName workflow ⟨by decide, by simp⟩

/-! ### Files -/

namespace Disk

variable {d : Disk} {path other : List String}

@[simp] theorem item?_put (item : Item) :
    (d.put path item).item? other = if other = path then some item else d.item? other := rfl

/-- What a file holds, and nothing where none is. -/
def text (d : Disk) (path : List String) : String :=
  match d.item? path with
  | some (.file content) => content
  | some .directory | none => ""

/-- A directory is there, or it can be made. -/
def Passable (d : Disk) (path : List String) : Prop :=
  d.item? path = some .directory ∨ d.item? path = none ∧ d.admits path = true

/-- The directories behind `here` on a way are there or can be made. -/
def Passes (d : Disk) (here names : List String) : Prop :=
  ∀ part, part ≠ [] → part <+: names → d.Passable (here ++ part)

/-- All that may have changed is that directories on the way to a path were made. -/
def OnlyMade (d after : Disk) (way : List String) : Prop :=
  ∀ path, after.item? path = d.item? path ∨
    path <+: way ∧ d.item? path = none ∧ after.item? path = some .directory

theorem passes_cons {here names : List String} {name : String} :
    d.Passes here (name :: names) ↔
      d.Passable (here ++ [name]) ∧ d.Passes (here ++ [name]) names := by
  constructor
  · intro h
    refine ⟨h [name] (List.cons_ne_nil _ _) ⟨names, rfl⟩, fun part hne hpart => ?_⟩
    have hpassable := h (name :: part) (List.cons_ne_nil _ _)
      (List.cons_prefix_cons.mpr ⟨rfl, hpart⟩)
    rwa [List.append_cons] at hpassable
  · rintro ⟨hname, hnames⟩ part hne hpart
    cases part with
    | nil => exact absurd rfl hne
    | cons first part =>
      obtain ⟨rfl, hmore⟩ := List.cons_prefix_cons.mp hpart
      cases part with
      | nil => exact hname
      | cons second part =>
        rw [List.append_cons]
        exact hnames _ (List.cons_ne_nil _ _) hmore

/-- A directory does not bar the way that goes on from it. -/
theorem passes_put {here names : List String} :
    (d.put here .directory).Passes here names ↔ d.Passes here names := by
  have hitem : ∀ part, part ≠ [] →
      (d.put here .directory).item? (here ++ part) = d.item? (here ++ part) := by
    intro part hne
    rw [item?_put, if_neg]
    exact fun h => hne (List.append_right_eq_self.mp h)
  refine forall_congr' fun part => forall_congr' fun hne => imp_congr_right fun _ => ?_
  rw [Passable, hitem part hne]
  rfl

theorem onlyMade_put {here way : List String} (hhere : here <+: way) (hnone : d.item? here = none)
    {after : Disk} (h : (d.put here .directory).OnlyMade after way) : d.OnlyMade after way := by
  intro path
  have hpath := h path
  rw [item?_put] at hpath
  by_cases heq : path = here
  · subst heq
    rw [if_pos rfl] at hpath
    rcases hpath with hafter | ⟨-, hnever, -⟩
    · exact .inr ⟨hhere, hnone, hafter⟩
    · cases hnever
  · rwa [if_neg heq] at hpath

/-- Making directories makes those on the way that are not there, as long as nothing bars it. -/
theorem makeDirectories_spec (d : Disk) (here names : List String) :
    d.OnlyMade (d.makeDirectories here names).1 (here ++ names) ∧
      (d.makeDirectories here names).1.admits = d.admits ∧
      ((d.makeDirectories here names).2 = true ↔ d.Passes here names) := by
  induction names generalizing d here with
  | nil =>
    refine ⟨fun path => .inl rfl, rfl, iff_of_true rfl fun part hne hpart => ?_⟩
    exact absurd (List.prefix_nil.mp hpart) hne
  | cons name names ih =>
    rw [passes_cons, List.append_cons, makeDirectories]
    cases hitem : d.item? (here ++ [name]) with
    | some item =>
      cases item with
      | directory =>
        obtain ⟨hmade, hadmits, hpasses⟩ := ih d (here ++ [name])
        exact ⟨hmade, hadmits, hpasses.trans (iff_and_self.mpr fun _ => .inl hitem)⟩
      | file content =>
        refine ⟨fun path => .inl rfl, rfl, iff_of_false Bool.false_ne_true ?_⟩
        rintro ⟨hpassable | ⟨hnone, -⟩, -⟩
        · cases hitem.symm.trans hpassable
        · cases hitem.symm.trans hnone
    | none =>
      dsimp only
      split
      · rename_i hadmits
        -- The rest of the way is judged on a disk that has one more directory, which bars nothing.
        obtain ⟨hmade, hsame, hpasses⟩ := ih (d.put (here ++ [name]) .directory) (here ++ [name])
        rw [passes_put] at hpasses
        refine ⟨onlyMade_put (List.prefix_append _ _) hitem hmade, hsame, hpasses.trans ?_⟩
        exact iff_and_self.mpr fun _ => .inr ⟨hitem, hadmits⟩
      · rename_i hadmits
        refine ⟨fun path => .inl rfl, rfl, iff_of_false Bool.false_ne_true ?_⟩
        rintro ⟨hpassable | ⟨-, hadmitted⟩, -⟩
        · cases hitem.symm.trans hpassable
        · exact hadmits hadmitted

/-- A file is opened where the system admits it and no directory stands. Only it may be created. -/
theorem openFile_spec (d : Disk) (path : List String) :
    ((d.openFile path).2 = true ↔ d.item? path ≠ some .directory ∧ d.admits path = true) ∧
      (∀ other ≠ path, (d.openFile path).1.item? other = d.item? other) ∧
      ((d.openFile path).2 = true →
        (d.openFile path).1.item? path = some (.file (d.text path))) ∧
      ((d.openFile path).2 = false → (d.openFile path).1 = d) := by
  unfold openFile text
  cases hitem : d.item? path with
  | some item =>
    cases item with
    | directory => simp
    | file content => simp [hitem]
  | none =>
    by_cases hadmits : d.admits path = true
    · simp +contextual [hadmits]
    · simp [hadmits]

/-- Each line is written behind those before it. -/
theorem writeLines_spec (level : ℕ) (events : List Event) {content : String}
    (h : d.item? path = some (.file content)) :
    (writeLines level path d events).item? path =
        some (.file (content ++ String.join (lines level events))) ∧
      ∀ other ≠ path, (writeLines level path d events).item? other = d.item? other := by
  induction events generalizing d content with
  | nil =>
    refine ⟨?_, fun other _ => rfl⟩
    rw [writeLines, h, lines, List.filterMap_nil, String.join_nil, String.append_empty]
  | cons e events ih =>
    rw [writeLines, lines, List.filterMap_cons]
    cases line? level e with
    | none => exact ih h
    | some l =>
      -- The file stands there after each line, so that the induction goes on with what it holds.
      have happend : d.append path l = d.put path (.file (content ++ l)) := by rw [append, h]
      have hitem : (d.append path l).item? path = some (.file (content ++ l)) := by
        rw [happend, item?_put, if_pos rfl]
      obtain ⟨hpath, hother⟩ := ih hitem
      refine ⟨?_, fun other hne => ?_⟩
      · rw [String.join_cons, ← String.append_assoc]
        exact hpath
      · rw [hother other hne, happend, item?_put, if_neg hne]

/-- The log of a run can be written: nothing bars the way to its file, and the file
can be opened. -/
structure Writable (d : Disk) (directory : List String) (workflow run : String) : Prop where
  passes : d.Passes [] (directory ++ [directoryOf workflow])
  item_ne : d.item? (placeOf directory workflow run) ≠ some .directory
  admits : d.admits (placeOf directory workflow run) = true

variable {directory : List String} {workflow run : String}

/-- Below a directory in which nothing stands and all is admitted, the log of every run can be
written, whatever the ids are. -/
theorem writable_of_empty (hway : d.Passes [] directory)
    (hempty : ∀ names ≠ [], d.item? (directory ++ names) = none)
    (hadmits : ∀ names, d.admits (directory ++ names) = true) (workflow run : String) :
    d.Writable directory workflow run := by
  have hplace := hempty [directoryOf workflow, fileOf run] (List.cons_ne_nil _ _)
  refine ⟨fun part hne hpart => ?_, ?_, hadmits _⟩
  · rcases List.prefix_concat_iff.mp hpart with rfl | hpart
    · exact .inr ⟨hempty _ (List.cons_ne_nil _ _), hadmits _⟩
    · exact hway part hne hpart
  · rw [placeOf, hplace]
    exact (Option.some_ne_none _).symm

/-- Making directories on the way to the file of a run leaves that file as it is. -/
theorem OnlyMade.item?_placeOf (run : String) {after : Disk}
    (h : d.OnlyMade after (directory ++ [directoryOf workflow])) :
    after.item? (placeOf directory workflow run) = d.item? (placeOf directory workflow run) := by
  refine (h _).resolve_right fun hway => ?_
  have hlen := hway.1.length_le
  simp [placeOf] at hlen

theorem log_eq (level : ℕ) (events : List Event) :
    d.log directory level workflow run events =
      let made := d.makeDirectories [] (directory ++ [directoryOf workflow])
      let opened := made.1.openFile (placeOf directory workflow run)
      if made.2 then
        if opened.2 then writeLines level (placeOf directory workflow run) opened.1 events
        else opened.1
      else made.1 := rfl

/-- Of a log that can be written, the file gets the lines behind what it holds. All else that may
have changed is that directories on the way to it were made. -/
theorem Writable.log_spec (h : d.Writable directory workflow run) (level : ℕ)
    (events : List Event) :
    (d.log directory level workflow run events).item? (placeOf directory workflow run) =
        some (.file (d.text (placeOf directory workflow run) ++ String.join (lines level events))) ∧
      ∀ path ≠ placeOf directory workflow run,
        (d.log directory level workflow run events).item? path = d.item? path ∨
          path <+: directory ++ [directoryOf workflow] ∧ d.item? path = none ∧
            (d.log directory level workflow run events).item? path = some .directory := by
  obtain ⟨hmade, hadmits, hpasses⟩ :=
    makeDirectories_spec d [] (directory ++ [directoryOf workflow])
  obtain ⟨hopens, hframe, hfile, -⟩ := openFile_spec
    (d.makeDirectories [] (directory ++ [directoryOf workflow])).1 (placeOf directory workflow run)
  have hplace := hmade.item?_placeOf run
  have hopen := hopens.mpr ⟨hplace ▸ h.item_ne, hadmits ▸ h.admits⟩
  obtain ⟨hwritten, hother⟩ := writeLines_spec level events (hfile hopen)
  rw [log_eq]
  dsimp only
  rw [if_pos (hpasses.mpr h.passes), if_pos hopen]
  refine ⟨?_, fun path hne => ?_⟩
  · rw [hwritten, text, hplace]
    rfl
  · rw [hother path hne, hframe path hne]
    exact hmade path

/-- Of a log that cannot be written, nothing is written. -/
theorem log_of_not_writable (h : ¬ d.Writable directory workflow run) (level : ℕ)
    (events : List Event) : d.OnlyMade (d.log directory level workflow run events)
      (directory ++ [directoryOf workflow]) := by
  obtain ⟨hmade, hadmits, hpasses⟩ :=
    makeDirectories_spec d [] (directory ++ [directoryOf workflow])
  obtain ⟨hopens, -, -, hsame⟩ := openFile_spec
    (d.makeDirectories [] (directory ++ [directoryOf workflow])).1 (placeOf directory workflow run)
  have hplace := hmade.item?_placeOf run
  rw [log_eq]
  dsimp only
  split
  · rename_i hway
    split
    · rename_i hopen
      obtain ⟨hitem, hadmitted⟩ := hopens.mp hopen
      exact absurd ⟨hpasses.mp hway, hplace ▸ hitem, hadmits ▸ hadmitted⟩ h
    · rename_i hopen
      rw [hsame (Bool.eq_false_iff.mpr hopen)]
      exact hmade
  · exact hmade

/-- The log of a run that can be written stands in a file `A/B.jsonl` below the directory of all
logs, where `A` and `B` are plain names of files, and no other file is touched. Behind what the file
holds there is now one line for each event that the level admits, in the order of the events, and
each line is an object of JSON on its event. A higher level only puts lines in between. -/
theorem log_appends (h : d.Writable directory workflow run) (events : List Event) :
    IsFileName (directoryOf workflow) ∧ (∃ name, IsFileName name ∧ fileOf run = name ++ ".jsonl") ∧
    ∃ rows : ℕ → List String, ∀ level,
      (d.log directory level workflow run events).item?
          (directory ++ [directoryOf workflow, fileOf run]) =
        some (.file (d.text (directory ++ [directoryOf workflow, fileOf run]) ++
          String.join (rows level))) ∧
      (∀ path ≠ directory ++ [directoryOf workflow, fileOf run],
        (d.log directory level workflow run events).item? path = d.item? path ∨
          path <+: directory ++ [directoryOf workflow] ∧ d.item? path = none ∧
            (d.log directory level workflow run events).item? path = some .directory) ∧
      List.Forall₂ Tells (events.filter fun e => Admits level e.what) (rows level) ∧
      ∀ higher ≥ level, (rows level).Sublist (rows higher) := by
  have hrun : IsFileName (safeName run "run") := isFileName_safeName run ⟨by decide, by simp⟩
  refine ⟨isFileName_directoryOf workflow, ⟨_, hrun, rfl⟩, fun level => lines level events, ?_⟩
  intro level
  obtain ⟨hfile, hframe⟩ := h.log_spec level events
  exact ⟨hfile, hframe, forall₂_lines level events, fun higher hle => lines_sublist hle events⟩

/-- A disk that has the log of an earlier run, and on which names have at most 255 bytes. -/
def kept : Disk where
  item? path :=
    if path = ["logs"] ∨ path = ["logs", "___up"] then some .directory
    else if path = ["logs", "___up", "run.jsonl"] then some (.file "old\n")
    else none
  admits path := path.all fun name => decide (name.utf8ByteSize ≤ 255)

/-- Events of a run, one with line ends in what it tells. -/
def told : List Event :=
  [.workflowStart "../up", .nodeOutput "a" (.str "x\r\n\n"), .nodeEnd "a" (.str "x\r\n\n") 5,
    .workflowEnd .completed none none 9].zipIdx.map fun what =>
      { runId := ""
        seq := what.2
        timestamp := ⟨⟨2016, 12, 31⟩, 86399, 1500000000⟩
        what := what.1 }

theorem log_appends_of_hostile :
    kept.Writable ["logs"] "../up" "" ∧ ∃ rows : ℕ → List String,
      (rows 1).length = 2 ∧ (rows 3).length = 4 ∧
      (kept.log ["logs"] 3 "../up" "" told).item? ["logs", "___up", "run.jsonl"] =
        some (.file ("old\n" ++ String.join (rows 3))) := by
  have hwritable : kept.Writable ["logs"] "../up" "" := by
    refine ⟨?_, by decide, by decide⟩
    have hempty : kept.Passes ["logs", "___up"] [] := fun part hne hpart =>
      absurd (List.prefix_nil.mp hpart) hne
    exact passes_cons.mpr ⟨.inl (by decide), passes_cons.mpr ⟨.inl (by decide), hempty⟩⟩
  obtain ⟨-, -, rows, hrows⟩ := log_appends hwritable told
  obtain ⟨-, -, hlow, -⟩ := hrows 1
  obtain ⟨hfile, -, hhigh, -⟩ := hrows 3
  exact ⟨hwritable, rows, hlow.length_eq.symm.trans (by decide),
    hhigh.length_eq.symm.trans (by decide), hfile⟩

end Disk

end Workflow.Log
