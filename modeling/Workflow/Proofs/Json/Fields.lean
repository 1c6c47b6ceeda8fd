import Workflow.Json.Basic
import Mathlib.Data.List.Induction

/-! Named values as maps: what looking up a key gives after inserting, merging and restricting, and
that values in increasing order of their keys are known by what looking them up gives. -/
namespace Workflow.Fields

@[simp] theorem get?_nil (key : String) : get? [] key = none := rfl

@[simp] theorem get?_insert (fields : Fields) (key j : String) (value : Json) :
    (fields.insert key value).get? j = if key = j then some value else fields.get? j := by
  induction fields with
  | nil => simp [insert, get?]
  | cons kv rest ih =>
    obtain ⟨k, v⟩ := kv
    rw [insert]
    split
    · rw [get?]
    · split
      · rename_i hk
        subst hk
        by_cases hj : key = j <;> simp [get?, hj]
      · rename_i hk
        rw [get?, get?, ih]
        by_cases hj : k = j
        · subst hj
          simp [hk]
        · simp [hj]

theorem get?_isSome_iff {fields : Fields} {key : String} :
    (fields.get? key).isSome ↔ key ∈ fields.map (·.1) := by
  induction fields with
  | nil => simp
  | cons kv rest ih =>
    obtain ⟨k, v⟩ := kv
    rw [get?]
    by_cases hk : k = key
    · simp [hk]
    · simp [hk, ih, Ne.symm hk]

/-- The value that merging a patch binds to a key: the last one that the patch has for it. -/
def written (patch : Fields) (key : String) : Option Json := (merge [] patch).get? key

theorem get?_merge_append (fields patch more : Fields) (key : String) :
    (merge fields (patch ++ more)).get? key = (merge (merge fields patch) more).get? key := by
  rw [merge, List.foldl_append]
  rfl

/-- What the patch writes replaces what was there. -/
theorem get?_merge (fields patch : Fields) (key : String) :
    (merge fields patch).get? key = (written patch key).or (fields.get? key) := by
  induction patch using List.reverseRecOn with
  | nil => rfl
  | append_singleton patch kv ih =>
    obtain ⟨k, v⟩ := kv
    have hstep : ∀ fs, (merge fs (patch ++ [(k, v)])).get? key =
        if k = key then some v else (merge fs patch).get? key := by
      intro fs
      rw [get?_merge_append]
      exact get?_insert _ k key v
    rw [hstep, written, hstep]
    split
    · rfl
    · exact ih

theorem mem_of_written {patch : Fields} {key : String} (h : (written patch key).isSome) :
    key ∈ patch.map (·.1) := by
  induction patch using List.reverseRecOn with
  | nil => cases h
  | append_singleton patch kv ih =>
    obtain ⟨k, v⟩ := kv
    rw [written, get?_merge_append] at h
    rw [List.map_append, List.mem_append]
    by_cases hk : k = key
    · exact Or.inr (by simp [hk])
    · refine Or.inl (ih ?_)
      rwa [show (merge (merge [] patch) [(k, v)]).get? key = (merge [] patch).get? key from
        (get?_insert _ k key v).trans (if_neg hk)] at h

theorem get?_restrict (fields : Fields) (keys : List String) (key : String) :
    (fields.restrict keys).get? key = if key ∈ keys then fields.get? key else none := by
  change get? (fields.filter fun x => keys.contains x.1) key = _
  induction fields with
  | nil => simp
  | cons kv rest ih =>
    obtain ⟨k, v⟩ := kv
    rw [List.filter_cons]
    by_cases hk : k = key
    · subst hk
      by_cases hmem : k ∈ keys
      · simp [hmem, get?]
      · rw [if_neg (by simpa using hmem), ih, if_neg hmem, if_neg hmem]
    · have hcons : get? ((k, v) :: rest) key = get? rest key := if_neg hk
      split
      · rw [get?, if_neg hk, ih, hcons]
      · rw [ih, hcons]

theorem get?_append (fields more : Fields) (key : String) :
    get? (fields ++ more) key = (fields.get? key).or (more.get? key) := by
  induction fields with
  | nil => rfl
  | cons kv rest ih =>
    obtain ⟨k, v⟩ := kv
    rw [List.cons_append, get?, get?, ih]
    split <;> rfl

/-- Of pairs with different keys each binds its key. -/
theorem get?_ofList {pairs : Fields} (h : (pairs.map (·.1)).Nodup) (key : String) :
    (ofList pairs).get? key = get? pairs key := by
  induction pairs using List.reverseRecOn with
  | nil => rfl
  | append_singleton pairs kv ih =>
    obtain ⟨k, v⟩ := kv
    rw [List.map_append, List.nodup_append] at h
    have hstep : ofList (pairs ++ [(k, v)]) = (ofList pairs).insert k v := by
      rw [ofList, List.foldl_append]
      rfl
    rw [hstep, get?_insert, ih h.1, get?_append]
    split
    · rename_i hk
      subst hk
      have hnone : get? pairs k = none := by
        rw [← Option.not_isSome_iff_eq_none, get?_isSome_iff]
        exact fun hmem => h.2.2 k hmem k (List.mem_singleton_self k) rfl
      simp [hnone, get?]
    · rename_i hk
      simp [get?, hk]

/-! ### Values in order -/

/-- The keys are in increasing order. -/
def Sorted (fields : Fields) : Prop := fields.Pairwise fun x y => x.1 < y.1

theorem lt_of_not_lt {a b : String} (h : ¬ a < b) (hne : a ≠ b) : b < a := by
  by_contra hba
  exact hne (String.le_antisymm (String.not_lt.mp hba) (String.not_lt.mp h))

theorem mem_insert_key {fields : Fields} {key k : String} {value : Json}
    (h : k ∈ (fields.insert key value).map (·.1)) : k = key ∨ k ∈ fields.map (·.1) := by
  rw [← get?_isSome_iff, get?_insert] at h
  by_cases hk : key = k
  · exact Or.inl hk.symm
  · rw [if_neg hk] at h
    exact Or.inr (get?_isSome_iff.mp h)

theorem Sorted.insert {fields : Fields} (h : fields.Sorted) (key : String) (value : Json) :
    (fields.insert key value).Sorted := by
  induction fields with
  | nil => exact List.pairwise_singleton _ _
  | cons kv rest ih =>
    obtain ⟨k, v⟩ := kv
    obtain ⟨hk, hrest⟩ := List.pairwise_cons.mp h
    rw [Fields.insert]
    split
    · rename_i hlt
      refine List.pairwise_cons.mpr ⟨fun x hx => ?_, h⟩
      rcases List.mem_cons.mp hx with rfl | hx
      · exact hlt
      · exact String.lt_trans hlt (hk x hx)
    · split
      · rename_i heq
        subst heq
        exact List.pairwise_cons.mpr ⟨hk, hrest⟩
      · rename_i hlt hne
        refine List.pairwise_cons.mpr ⟨fun x hx => ?_, ih hrest⟩
        rcases mem_insert_key (List.mem_map_of_mem (f := (·.1)) hx) with hx | hx
        · exact hx ▸ lt_of_not_lt hlt hne
        · obtain ⟨y, hy, hyx⟩ := List.mem_map.mp hx
          exact hyx ▸ hk y hy

theorem Sorted.merge {fields : Fields} (h : fields.Sorted) (patch : Fields) :
    (fields.merge patch).Sorted := by
  unfold Fields.merge
  induction patch generalizing fields with
  | nil => exact h
  | cons kv patch ih => exact ih (h.insert kv.1 kv.2)

theorem Sorted.restrict {fields : Fields} (h : fields.Sorted) (keys : List String) :
    (fields.restrict keys).Sorted := h.sublist List.filter_sublist

theorem get?_eq_none_of_lt {fields : Fields} {key : String} (h : ∀ x ∈ fields, key < x.1) :
    fields.get? key = none := by
  rw [← Option.not_isSome_iff_eq_none, get?_isSome_iff]
  intro hmem
  obtain ⟨x, hx, rfl⟩ := List.mem_map.mp hmem
  exact String.lt_irrefl _ (h x hx)

/-- Values in order are known by what looking them up gives. -/
theorem Sorted.ext {fields others : Fields} (hf : fields.Sorted) (ho : others.Sorted)
    (h : ∀ key, fields.get? key = others.get? key) : fields = others := by
  induction fields generalizing others with
  | nil =>
    cases others with
    | nil => rfl
    | cons kv rest =>
      have hk := h kv.1
      simp [get?] at hk
  | cons kv rest ih =>
    obtain ⟨k, v⟩ := kv
    cases others with
    | nil =>
      have hk := h k
      simp [get?] at hk
    | cons lw rest' =>
      obtain ⟨l, w⟩ := lw
      obtain ⟨hk, hrest⟩ := List.pairwise_cons.mp hf
      obtain ⟨hl, hrest'⟩ := List.pairwise_cons.mp ho
      -- The first keys are the same: a smaller one would be missing on the other side.
      have hkl : k = l := by
        by_contra hne
        by_cases hlt : k < l
        · have hnone : get? ((l, w) :: rest') k = none := get?_eq_none_of_lt fun x hx => by
            rcases List.mem_cons.mp hx with rfl | hx
            · exact hlt
            · exact String.lt_trans hlt (hl x hx)
          have hsome := h k
          rw [hnone] at hsome
          simp [get?] at hsome
        · have hgt := lt_of_not_lt hlt hne
          have hnone : get? ((k, v) :: rest) l = none := get?_eq_none_of_lt fun x hx => by
            rcases List.mem_cons.mp hx with rfl | hx
            · exact hgt
            · exact String.lt_trans hgt (hk x hx)
          have hsome := h l
          rw [hnone] at hsome
          simp [get?] at hsome
      subst hkl
      have hv : v = w := by
        have hkv := h k
        simpa [get?] using hkv
      subst hv
      refine congrArg _ (ih hrest hrest' fun key => ?_)
      by_cases hkey : k = key
      · subst hkey
        rw [get?_eq_none_of_lt hk, get?_eq_none_of_lt hl]
      · have hrestKey := h key
        simpa [get?, hkey] using hrestKey

end Workflow.Fields
