import Workflow.Proofs.Template.Layout

/-! Structured templates: what becomes of the texts inside a value that is rendered, and that
everything else stays as it is. -/
namespace Workflow.Template

/-- What becomes of a text: the value itself when the text is, white space at its ends apart, one
placeholder that leads to a value, and else the rendered text. The value reads as the placeholder
would be rendered. -/
inductive LeafRenders (input : Fields) (s : String) : Json → Prop
  | value {p : Placeholder} {v : Json} (hs : Text.trim s.toList = p.text)
    (hv : input.lookup? p.path = some v)
    (hreads : shown (some v) = (render (String.ofList (Text.trim s.toList)) input).toList) :
    LeafRenders input s v
  | text (h : ∀ (p : Placeholder) (v : Json), Text.trim s.toList = p.text →
      input.lookup? p.path ≠ some v) : LeafRenders input s (.str (render s input))

/-- What becomes of a value: arrays keep their lengths and orders, objects their keys, and scalars
other than texts are left alone. -/
inductive Renders (input : Fields) : Json → Json → Prop
  | null : Renders input .null .null
  | bool (b : Bool) : Renders input (.bool b) (.bool b)
  | num (n : Number) : Renders input (.num n) (.num n)
  | str {s : String} {v : Json} (h : LeafRenders input s v) : Renders input (.str s) v
  | arr {items items' : List Json} (h : List.Forall₂ (Renders input) items items') :
    Renders input (.arr items) (.arr items')
  | obj {fields fields' : Fields} (hkeys : fields.map (·.1) = fields'.map (·.1))
    (h : List.Forall₂ (fun kv kv' => Renders input kv.2 kv'.2) fields fields') :
    Renders input (.obj fields) (.obj fields')

/-! ### Texts -/

/-- A placeholder alone renders as its value reads. -/
theorem render_placeholder {p : Placeholder} {template : String} (h : template.toList = p.text)
    (input : Fields) : (render template input).toList = shown (input.lookup? p.path) := by
  let l : Layout := ⟨[], [(p, [])], free_nil, List.forall_mem_singleton.mpr free_nil⟩
  have hl : l.text = template.toList := by
    rw [h, Layout.text, Parts.text_cons]
    exact List.append_nil p.text
  rw [l.render_eq hl, Layout.filled]
  simp [l]

theorem renderLeaf_of_placeholder {s : String} {p : Placeholder} {input : Fields} {v : Json}
    (hs : Text.trim s.toList = p.text) (hv : input.lookup? p.path = some v) :
    renderLeaf s input = v := by
  have hfound := p.placeholder?_text_append []
  rw [List.append_nil, ← hs] at hfound
  rw [renderLeaf, hfound]
  simp only
  rw [← Placeholder.path, hv]

theorem renderLeaf_of_forall_ne {s : String} {input : Fields}
    (h : ∀ (p : Placeholder) (v : Json), Text.trim s.toList = p.text →
      input.lookup? p.path ≠ some v) : renderLeaf s input = .str (render s input) := by
  unfold renderLeaf
  split
  · rename_i name hfound
    obtain ⟨p, rfl, hs⟩ := exists_placeholder hfound
    split
    · rename_i v hv
      exact absurd hv (h p v (hs.trans (List.append_nil _)))
    · rfl
  · rfl

theorem leafRenders_iff {input : Fields} {s : String} {v : Json} :
    LeafRenders input s v ↔ v = renderLeaf s input := by
  constructor
  · rintro (⟨hs, hv, -⟩ | h)
    · exact (renderLeaf_of_placeholder hs hv).symm
    · exact (renderLeaf_of_forall_ne h).symm
  · rintro rfl
    by_cases h : ∀ (p : Placeholder) (v : Json), Text.trim s.toList = p.text →
        input.lookup? p.path ≠ some v
    · exact renderLeaf_of_forall_ne h ▸ .text h
    · push Not at h
      obtain ⟨p, v, hs, hv⟩ := h
      rw [renderLeaf_of_placeholder hs hv]
      refine .value hs hv ?_
      rw [render_placeholder ((String.toList_ofList).trans hs), hv]

/-! ### Values -/

mutual
theorem renders_renderValue (input : Fields) (v : Json) :
    Renders input v (renderValue input v) := by
  cases v with
  | null => exact .null
  | bool b => exact .bool b
  | num n => exact .num n
  | str s => exact .str (leafRenders_iff.mpr rfl)
  | arr items => exact .arr (renders_renderItems input items)
  | obj fields =>
    exact .obj (renders_renderFields input fields).1 (renders_renderFields input fields).2
theorem renders_renderItems (input : Fields) (items : List Json) :
    List.Forall₂ (Renders input) items (renderItems input items) := by
  cases items with
  | nil => exact .nil
  | cons v items => exact .cons (renders_renderValue input v) (renders_renderItems input items)
theorem renders_renderFields (input : Fields) (fields : List (String × Json)) :
    fields.map (·.1) = (renderFields input fields).map (·.1) ∧
    List.Forall₂ (fun kv kv' => Renders input kv.2 kv'.2) fields (renderFields input fields) := by
  cases fields with
  | nil => exact ⟨rfl, .nil⟩
  | cons kv fields =>
    obtain ⟨hkeys, hfields⟩ := renders_renderFields input fields
    refine ⟨?_, .cons (renders_renderValue input kv.2) hfields⟩
    rw [renderFields, List.map_cons, List.map_cons, hkeys]
end

mutual
theorem Renders.eq {input : Fields} {v w : Json} (h : Renders input v w) :
    w = renderValue input v := by
  cases v with
  | null | bool | num => cases h; rfl
  | str s =>
    cases h with
    | str h => exact leafRenders_iff.mp h
  | arr items =>
    cases h with
    | arr h => exact congrArg Json.arr (renderItems_eq h)
  | obj fields =>
    cases h with
    | obj hkeys h => exact congrArg Json.obj (renderFields_eq hkeys h)
theorem renderItems_eq {input : Fields} {items items' : List Json}
    (h : List.Forall₂ (Renders input) items items') : items' = renderItems input items := by
  cases items with
  | nil => cases h; rfl
  | cons v items =>
    cases h with
    | cons hv hitems => rw [renderItems, hv.eq, renderItems_eq hitems]
theorem renderFields_eq {input : Fields} {fields fields' : List (String × Json)}
    (hkeys : fields.map (·.1) = fields'.map (·.1))
    (h : List.Forall₂ (fun kv kv' => Renders input kv.2 kv'.2) fields fields') :
    fields' = renderFields input fields := by
  cases fields with
  | nil => cases h; rfl
  | cons kv fields =>
    cases h with
    | @cons _ kv' _ fields' hv hfields =>
      obtain ⟨hkey, hkeys⟩ := List.cons.inj hkeys
      have hkey : kv.1 = kv'.1 := hkey
      rw [renderFields, ← renderFields_eq hkeys hfields, ← hv.eq, hkey]
end

/-! ### Values without placeholders -/

mutual
/-- The texts inside a value. -/
def texts : Json → List String
  | .str s => [s]
  | .arr items => itemsTexts items
  | .obj fields => fieldsTexts fields
  | .null | .bool _ | .num _ => []
def itemsTexts : List Json → List String
  | [] => []
  | v :: items => texts v ++ itemsTexts items
def fieldsTexts : List (String × Json) → List String
  | [] => []
  | (_, v) :: fields => texts v ++ fieldsTexts fields
end

theorem renderLeaf_eq_self {s : String} (h : hasPlaceholders s = false) (input : Fields) :
    renderLeaf s input = .str s := by
  rw [renderLeaf_of_forall_ne, render_eq_self h]
  intro p v hs
  obtain ⟨before, after, heq, -, -⟩ := Text.exists_eq_trim s.toList
  exact absurd ⟨before, after, by rw [← hs, ← heq]⟩ (free_of_hasPlaceholders h p)

mutual
theorem renderValue_eq_self {v : Json} (h : ∀ s ∈ texts v, hasPlaceholders s = false)
    (input : Fields) : renderValue input v = v := by
  cases v with
  | str s => exact renderLeaf_eq_self (h s (List.mem_singleton_self s)) input
  | arr items => exact congrArg Json.arr (renderItems_eq_self h input)
  | obj fields => exact congrArg Json.obj (renderFields_eq_self h input)
  | null | bool | num => rfl
theorem renderItems_eq_self {items : List Json}
    (h : ∀ s ∈ itemsTexts items, hasPlaceholders s = false) (input : Fields) :
    renderItems input items = items := by
  cases items with
  | nil => rfl
  | cons v items =>
    obtain ⟨hv, hitems⟩ := List.forall_mem_append.mp h
    rw [renderItems, renderValue_eq_self hv, renderItems_eq_self hitems]
theorem renderFields_eq_self {fields : List (String × Json)}
    (h : ∀ s ∈ fieldsTexts fields, hasPlaceholders s = false) (input : Fields) :
    renderFields input fields = fields := by
  cases fields with
  | nil => rfl
  | cons kv fields =>
    obtain ⟨hv, hfields⟩ := List.forall_mem_append.mp h
    rw [renderFields, renderValue_eq_self hv, renderFields_eq_self hfields]
end

/-- Rendering a value renders the texts in it, each as the one placeholder that it is or as a
template, and nothing else; a value without placeholders stays as it is. -/
theorem renderValue_leafwise (input : Fields) (v : Json) :
    (∀ w, Renders input v w ↔ w = renderValue input v) ∧
    ((∀ s ∈ texts v, hasPlaceholders s = false) → renderValue input v = v) := by
  refine ⟨fun w => ⟨Renders.eq, ?_⟩, fun h => renderValue_eq_self h input⟩
  rintro rfl
  exact renders_renderValue input v

/-- An item that is one placeholder, one with two of them, and one that leads nowhere. -/
def mixedArguments : Json :=
  .obj [("flags", .arr [.bool true, .str " \x7b\x7blist\x7d\x7d\n"]),
    ("note", .str "\x7b\x7bname\x7d\x7d\x7b\x7bname\x7d\x7d"), ("rest", .str "\x7b\x7bno\x7d\x7d ")]

def mixedInput : Fields := [("list", .arr [.null]), ("name", .str "\x7b\x7blist\x7d\x7d")]

def plainArguments : Json := .obj [("note", .str "\x7b\x7b a b \x7d\x7d"), ("n", .num (.int 1))]

theorem renderValue_leafwise_of_mixed :
    Renders mixedInput mixedArguments (.obj [("flags", .arr [.bool true, .arr [.null]]),
      ("note", .str "\x7b\x7blist\x7d\x7d\x7b\x7blist\x7d\x7d"), ("rest", .str " ")]) ∧
    (∀ s ∈ texts plainArguments, hasPlaceholders s = false) ∧
    renderValue mixedInput plainArguments = plainArguments := by
  have hplain : ∀ s ∈ texts plainArguments, hasPlaceholders s = false := by decide
  refine ⟨((renderValue_leafwise mixedInput mixedArguments).1 _).mpr ?_, hplain,
    (renderValue_leafwise mixedInput plainArguments).2 hplain⟩
  decide +kernel

end Workflow.Template
