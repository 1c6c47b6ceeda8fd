import Mathlib.Data.List.Basic
import Workflow.Predicate.Eval
import Workflow.Proofs.Json.Fields
import Workflow.Proofs.Template.Placeholder

/-! The paths that predicates, templates and structured templates mention: nothing else of the named
values counts, so that keys which cover these paths can stand for all keys. -/
namespace Workflow

/-- The paths that a predicate reads. -/
def Predicate.paths : Predicate → List String
  | literal _ => []
  | path name => [name]
  | not a => a.paths
  | and a b | or a b | compare _ a b => a.paths ++ b.paths

namespace Template

def Piece.path? : Piece → Option String
  | char _ => none
  | hole name => some (String.ofList name)

/-- The paths in the placeholders of a template. -/
def paths (template : String) : List String := (pieces template).filterMap Piece.path?

mutual
/-- The paths in the placeholders of all texts inside a value. -/
def valuePaths : Json → List String
  | .str s => paths s
  | .arr items => itemsPaths items
  | .obj fields => fieldsPaths fields
  | .null | .bool _ | .num _ => []
def itemsPaths : List Json → List String
  | [] => []
  | v :: items => valuePaths v ++ itemsPaths items
def fieldsPaths : List (String × Json) → List String
  | [] => []
  | (_, v) :: fields => valuePaths v ++ fieldsPaths fields
end

end Template

/-! ### Only the paths count -/

/-- The same value is found at each of the paths. -/
def Fields.AgreeOn (a b : Fields) (paths : List String) : Prop :=
  ∀ path ∈ paths, a.lookup? path = b.lookup? path

theorem Fields.agreeOn_append {a b : Fields} {paths more : List String} :
    a.AgreeOn b (paths ++ more) ↔ a.AgreeOn b paths ∧ a.AgreeOn b more := List.forall_mem_append

theorem Predicate.value_congr {a b : Fields} {p : Predicate} (h : a.AgreeOn b p.paths) :
    p.value a = p.value b := by
  induction p with
  | literal v => rfl
  | path name => rw [value, value, h name (List.mem_singleton_self name)]
  | not p ih => rw [value, value, ih h]
  | and p q ihp ihq | or p q ihp ihq | compare op p q ihp ihq =>
    obtain ⟨hp, hq⟩ := Fields.agreeOn_append.mp h
    rw [value, value, ihp hp, ihq hq]

namespace Template

theorem render_congr {a b : Fields} {template : String} (h : a.AgreeOn b (paths template)) :
    render template a = render template b := by
  rw [render, render]
  refine congrArg String.ofList (List.flatMap_congr fun piece hpiece => ?_)
  cases piece with
  | char c => rfl
  | hole name => rw [fill, fill, h _ (List.mem_filterMap.mpr ⟨_, hpiece, rfl⟩)]

theorem placeholder?_of_isBlank {c : Char} {s : List Char} (hc : Text.isBlank c = true) :
    placeholder? (c :: s) = none := by
  cases h : placeholder? (c :: s) with
  | none => rfl
  | some found =>
    obtain ⟨before, after, heq, -⟩ := placeholder?_eq_some_iff.mp h
    obtain ⟨rfl, -⟩ := List.cons.inj heq
    exact absurd hc (by decide)

/-- The first placeholder of a text is a piece of it, white space in front of it or not. -/
theorem mem_piecesFrom {before s name rest : List Char} {fuel : Nat}
    (hbefore : ∀ c ∈ before, Text.isBlank c = true) (hs : placeholder? s = some (name, rest))
    (hfuel : (before ++ s).length ≤ fuel) : .hole name ∈ piecesFrom fuel (before ++ s) := by
  induction before generalizing fuel with
  | nil =>
    cases s with
    | nil => cases hs
    | cons c s =>
      obtain ⟨fuel, rfl⟩ := Nat.exists_eq_add_of_le' (Nat.le_of_add_left_le hfuel)
      rw [List.nil_append, piecesFrom, hs]
      exact List.mem_cons_self
  | cons c before ih =>
    obtain ⟨fuel, rfl⟩ := Nat.exists_eq_add_of_le' (Nat.le_of_add_left_le hfuel)
    obtain ⟨hc, hbefore⟩ := List.forall_mem_cons.mp hbefore
    rw [List.cons_append, piecesFrom, placeholder?_of_isBlank hc]
    exact List.mem_cons_of_mem _ (ih hbefore (Nat.le_of_succ_le_succ hfuel))

/-- The placeholder that a text consists of, white space apart, is among its placeholders. -/
theorem mem_paths_of_trim {s : String} {name : List Char}
    (h : placeholder? (Text.trim s.toList) = some (name, [])) : String.ofList name ∈ paths s := by
  obtain ⟨before, after, hs, hbefore, -⟩ := Text.exists_eq_trim s.toList
  obtain ⟨inner, close, heq, hinner, hclose, hname⟩ := placeholder?_eq_some_iff.mp h
  have hafter : placeholder? (Text.trim s.toList ++ after) = some (name, after) :=
    placeholder?_eq_some_iff.mpr ⟨inner, close, by rw [heq]; simp, hinner, hclose, hname⟩
  have hmem : .hole name ∈ pieces s := by
    rw [pieces]
    nth_rewrite 2 [hs]
    rw [List.append_assoc]
    refine mem_piecesFrom hbefore hafter ?_
    rw [← List.append_assoc, ← hs]
  exact List.mem_filterMap.mpr ⟨_, hmem, rfl⟩

theorem renderLeaf_congr {a b : Fields} {s : String} (h : a.AgreeOn b (paths s)) :
    renderLeaf s a = renderLeaf s b := by
  unfold renderLeaf
  split
  · rename_i name hname
    rw [h _ (mem_paths_of_trim hname), render_congr h]
  · rw [render_congr h]

mutual
theorem renderValue_congr {a b : Fields} {v : Json} (h : a.AgreeOn b (valuePaths v)) :
    renderValue a v = renderValue b v := by
  cases v with
  | str s => exact renderLeaf_congr h
  | arr items => exact congrArg Json.arr (renderItems_congr h)
  | obj fields => exact congrArg Json.obj (renderFields_congr h)
  | null | bool | num => rfl
theorem renderItems_congr {a b : Fields} {items : List Json} (h : a.AgreeOn b (itemsPaths items)) :
    renderItems a items = renderItems b items := by
  cases items with
  | nil => rfl
  | cons v items =>
    obtain ⟨hv, hitems⟩ := Fields.agreeOn_append.mp h
    rw [renderItems, renderItems, renderValue_congr hv, renderItems_congr hitems]
theorem renderFields_congr {a b : Fields} {fields : List (String × Json)}
    (h : a.AgreeOn b (fieldsPaths fields)) : renderFields a fields = renderFields b fields := by
  cases fields with
  | nil => rfl
  | cons kv fields =>
    obtain ⟨hv, hfields⟩ := Fields.agreeOn_append.mp h
    rw [renderFields, renderFields, renderValue_congr hv, renderFields_congr hfields]
end

theorem buildPrompt_congr {a b : Fields} {template : String} {usage : List String}
    (h : a.AgreeOn b (paths template)) (husage : ∀ key ∈ usage, a.get? key = b.get? key) :
    buildPrompt template usage a = buildPrompt template usage b := by
  have hsections : usage.map (contextSection a) = usage.map (contextSection b) :=
    List.map_congr_left fun key hkey => by rw [contextSection, contextSection, husage key hkey]
  rw [buildPrompt, buildPrompt, render_congr h, hsections]

end Template

/-! ### Keys that cover the paths -/

/-- The keys have the whole path, and its first segment. -/
def Covers (keys : List String) (path : String) : Prop :=
  path ∈ keys ∧ String.ofList (path.toList.takeWhile (· != '.')) ∈ keys

instance (keys : List String) (path : String) : Decidable (Covers keys path) :=
  inferInstanceAs (Decidable (_ ∧ _))

theorem Fields.lookup?_restrict {keys : List String} {path : String} (state : Fields)
    (h : Covers keys path) : (state.restrict keys).lookup? path = state.lookup? path := by
  obtain ⟨segments, hsegments⟩ := Text.splitAt_eq '.' path.toList
  rw [lookup?, lookup?, hsegments]
  simp only [get?_restrict, if_pos h.1, if_pos h.2]

/-- Keys that cover all paths that are mentioned can be restricted to: predicates hold as before,
templates and structured templates render as before, and so do prompts with these keys as their
context. -/
theorem covering_keys_suffice (state : Fields) (keys : List String) :
    (∀ p : Predicate, (∀ path ∈ p.paths, Covers keys path) →
      p.holds (state.restrict keys) = p.holds state) ∧
    (∀ template, (∀ path ∈ Template.paths template, Covers keys path) →
      Template.render template (state.restrict keys) = Template.render template state ∧
      Template.buildPrompt template keys (state.restrict keys) =
        Template.buildPrompt template keys state) ∧
    (∀ v, (∀ path ∈ Template.valuePaths v, Covers keys path) →
      Template.renderValue (state.restrict keys) v = Template.renderValue state v) := by
  have hagree : ∀ {paths : List String}, (∀ path ∈ paths, Covers keys path) →
      (state.restrict keys).AgreeOn state paths :=
    fun h path hpath => Fields.lookup?_restrict state (h path hpath)
  refine ⟨fun p h => ?_, fun template h => ⟨?_, ?_⟩, fun v h => ?_⟩
  · rw [Predicate.holds, Predicate.holds, Predicate.value_congr (hagree h)]
  · exact Template.render_congr (hagree h)
  · refine Template.buildPrompt_congr (hagree h) fun key hkey => ?_
    rw [Fields.get?_restrict, if_pos hkey]
  · exact Template.renderValue_congr (hagree h)

def namedUser : Fields := [("note", .str "x"), ("user", .obj [("name", .str "ada")])]

theorem covering_keys_suffice_of_named :
    (∀ path ∈ (Predicate.path "user.name").paths, Covers ["user", "user.name"] path) ∧
    (∀ path ∈ Template.paths "\x7b\x7buser.name\x7d\x7d",
      Covers ["user", "user.name"] path) ∧
    (∀ path ∈ Template.valuePaths (.arr [.str "\x7b\x7buser\x7d\x7d"]),
      Covers ["user", "user.name"] path) ∧
    (Predicate.path "user.name").holds (namedUser.restrict ["user", "user.name"]) = true ∧
    Template.render "\x7b\x7buser.name\x7d\x7d"
      (namedUser.restrict ["user", "user.name"]) = "ada" ∧
    Template.renderValue (namedUser.restrict ["user", "user.name"])
      (.arr [.str "\x7b\x7buser\x7d\x7d"]) = .arr [.obj [("name", .str "ada")]] := by
  have hpredicate :
      ∀ path ∈ (Predicate.path "user.name").paths, Covers ["user", "user.name"] path := by
    decide
  have htemplate : ∀ path ∈ Template.paths "\x7b\x7buser.name\x7d\x7d",
      Covers ["user", "user.name"] path := by
    decide
  have hvalue : ∀ path ∈ Template.valuePaths (.arr [.str "\x7b\x7buser\x7d\x7d"]),
      Covers ["user", "user.name"] path := by
    decide
  obtain ⟨hholds, hrender, hstructured⟩ :=
    covering_keys_suffice namedUser ["user", "user.name"]
  refine ⟨hpredicate, htemplate, hvalue, (hholds _ hpredicate).trans ?_,
    (hrender _ htemplate).1.trans ?_, (hstructured _ hvalue).trans ?_⟩
  · decide
  · decide
  · rfl

end Workflow
