import Mathlib.Data.List.Nodup
import SelectQuery.Json.Basic

/-!
# The fields of an object

What an object says under a key does not depend on the order of its fields, and of several fields
with one key the last counts (`value?`). Its fields in the order of their keys are the list with
strictly increasing keys that says the same (`mem_sortFields_iff`, `pairwise_sortFields`).
-/

namespace SelectQuery

theorem lookup_cons_eq_ite {α β : Type} [DecidableEq α] (e : α × β) (entries : List (α × β))
    (key : α) : (e :: entries).lookup key = if key = e.1 then some e.2 else entries.lookup key := by
  rw [List.lookup_cons]
  by_cases h : key = e.1
  · rw [if_pos h, beq_iff_eq.mpr h]
  · rw [if_neg h, beq_eq_false_iff_ne.mpr h]

/-- With distinct keys looking up is membership. -/
theorem lookup_eq_some_iff_mem {α β : Type} [DecidableEq α] {entries : List (α × β)}
    (h : (entries.map (·.1)).Nodup) {key : α} {v : β} :
    entries.lookup key = some v ↔ (key, v) ∈ entries := by
  constructor
  · intro hlookup
    obtain ⟨before, after, rfl, -⟩ := List.lookup_eq_some_iff.mp hlookup
    simp
  · intro hmem
    obtain ⟨before, after, rfl⟩ := List.append_of_mem hmem
    refine List.lookup_eq_some_iff.mpr ⟨before, after, rfl, fun p hp => ?_⟩
    rw [List.map_append, List.nodup_append] at h
    have hne : p.1 ≠ key := h.2.2 p.1 (List.mem_map_of_mem hp) key (by simp)
    simp [Ne.symm hne]

theorem lookup_eq_none_iff_notMem {α β : Type} [DecidableEq α] {entries : List (α × β)} {key : α} :
    entries.lookup key = none ↔ key ∉ entries.map (·.1) := by
  rw [List.lookup_eq_none_iff, List.mem_map]
  constructor
  · rintro h ⟨p, hp, rfl⟩
    simpa using h p hp
  · intro h p hp
    have hne : p.1 ≠ key := fun heq => h ⟨p, hp, heq⟩
    simp [Ne.symm hne]

namespace Json

/-- The value under a key; of several fields with one key the last counts. -/
def value? (fields : List (String × Json)) (key : String) : Option Json :=
  fields.reverse.lookup key

variable {fields fields' : List (String × Json)} {key k : String} {v : Json}

theorem value?_eq_some_iff_mem (h : (fields.map (·.1)).Nodup) :
    value? fields key = some v ↔ (key, v) ∈ fields := by
  have hreverse : (fields.reverse.map (·.1)).Nodup := by
    rwa [List.map_reverse, List.nodup_reverse]
  rw [value?, lookup_eq_some_iff_mem hreverse, List.mem_reverse]

theorem value?_eq_none_iff_notMem : value? fields key = none ↔ key ∉ fields.map (·.1) := by
  rw [value?, lookup_eq_none_iff_notMem, List.map_reverse, List.mem_reverse]

theorem exists_value?_iff_mem : (∃ v, value? fields key = some v) ↔ key ∈ fields.map (·.1) := by
  rw [← Option.isSome_iff_exists, ← Option.ne_none_iff_isSome, Ne, value?_eq_none_iff_notMem,
    not_not]

/-- With distinct keys the order of the fields says nothing. -/
theorem value?_congr_of_perm (hperm : fields.Perm fields') (h : (fields.map (·.1)).Nodup) :
    value? fields = value? fields' := by
  have h' : (fields'.map (·.1)).Nodup := (hperm.map _).nodup h
  funext key
  refine Option.ext fun v => ?_
  rw [value?_eq_some_iff_mem h, value?_eq_some_iff_mem h', hperm.mem_iff]

/-! ### In order of their keys -/

theorem lookup_insertField (k : String) (v : Json) (fields : List (String × Json)) (key : String) :
    (insertField k v fields).lookup key = if key = k then some v else fields.lookup key := by
  induction fields with
  | nil => rw [insertField, lookup_cons_eq_ite]
  | cons f rest ih =>
    obtain ⟨k', v'⟩ := f
    rw [insertField]
    by_cases hlt : k < k'
    · rw [if_pos hlt, lookup_cons_eq_ite]
    · rw [if_neg hlt, lookup_cons_eq_ite]
      by_cases heq : k = k'
      · rw [if_pos heq, lookup_cons_eq_ite, heq]
        split <;> rfl
      · rw [if_neg heq, lookup_cons_eq_ite, ih]
        by_cases hkey : key = k
        · rw [if_pos hkey, if_pos hkey, hkey, if_neg heq]
        · rw [if_neg hkey, if_neg hkey]

theorem lookup_foldl_insertField (fields sorted : List (String × Json)) (key : String) :
    (fields.foldl (fun sorted (k, v) => insertField k v sorted) sorted).lookup key =
      (fields.reverse ++ sorted).lookup key := by
  induction fields generalizing sorted with
  | nil => rfl
  | cons f rest ih =>
    rw [List.foldl_cons, ih, List.reverse_cons, List.append_assoc, List.lookup_append,
      List.lookup_append, lookup_insertField, List.singleton_append, lookup_cons_eq_ite]

theorem lookup_sortFields (fields : List (String × Json)) (key : String) :
    (sortFields fields).lookup key = value? fields key := by
  rw [sortFields, lookup_foldl_insertField, List.append_nil, value?]

theorem keys_insertField (k : String) (v : Json) (fields : List (String × Json)) :
    ∀ f ∈ insertField k v fields, f.1 = k ∨ f ∈ fields := by
  induction fields with
  | nil => simp [insertField]
  | cons f' rest ih =>
    intro f hf
    rw [insertField] at hf
    split at hf
    · rcases List.mem_cons.mp hf with rfl | hf
      · exact .inl rfl
      · exact .inr hf
    · split at hf
      · rcases List.mem_cons.mp hf with rfl | hf
        · exact .inl rfl
        · exact .inr (List.mem_cons_of_mem _ hf)
      · rcases List.mem_cons.mp hf with rfl | hf
        · exact .inr (List.mem_cons_self ..)
        · exact (ih f hf).imp_right (List.mem_cons_of_mem _)

theorem pairwise_insertField (k : String) (v : Json) {fields : List (String × Json)}
    (h : fields.Pairwise (·.1 < ·.1)) : (insertField k v fields).Pairwise (·.1 < ·.1) := by
  induction fields with
  | nil => simp [insertField]
  | cons f' rest ih =>
    obtain ⟨hfirst, hrest⟩ := List.pairwise_cons.mp h
    rw [insertField]
    by_cases hlt : k < f'.1
    · rw [if_pos hlt]
      refine List.pairwise_cons.mpr ⟨List.forall_mem_cons.mpr ⟨hlt, fun f hf => ?_⟩, h⟩
      exact String.lt_trans hlt (hfirst f hf)
    · rw [if_neg hlt]
      by_cases heq : k = f'.1
      · rw [if_pos heq]
        exact List.pairwise_cons.mpr ⟨fun f hf => heq ▸ hfirst f hf, hrest⟩
      · rw [if_neg heq]
        have hgt : f'.1 < k := by
          rw [← String.not_le]
          exact fun hle => heq (String.le_antisymm hle (String.not_lt.mp hlt))
        refine List.pairwise_cons.mpr ⟨fun f hf => ?_, ih hrest⟩
        rcases keys_insertField k v rest f hf with hk | hf
        · exact hk ▸ hgt
        · exact hfirst f hf

theorem pairwise_sortFields (fields : List (String × Json)) :
    (sortFields fields).Pairwise (·.1 < ·.1) := by
  have hfold : ∀ fields sorted : List (String × Json), sorted.Pairwise (·.1 < ·.1) →
      (fields.foldl (fun sorted (k, v) => insertField k v sorted) sorted).Pairwise
        (·.1 < ·.1) := by
    intro fields
    induction fields with
    | nil => exact fun _ h => h
    | cons f rest ih => exact fun sorted h => ih _ (pairwise_insertField f.1 f.2 h)
  exact hfold fields [] .nil

theorem nodup_keys_sortFields (fields : List (String × Json)) :
    ((sortFields fields).map (·.1)).Nodup :=
  List.pairwise_map.mpr <| (pairwise_sortFields fields).imp fun h heq => by
    rw [heq] at h
    exact String.lt_irrefl _ h

theorem mem_sortFields_iff : (key, v) ∈ sortFields fields ↔ value? fields key = some v := by
  rw [← lookup_sortFields, lookup_eq_some_iff_mem (nodup_keys_sortFields fields)]

theorem mem_keys_sortFields_iff :
    key ∈ (sortFields fields).map (·.1) ↔ key ∈ fields.map (·.1) := by
  refine Iff.trans ?_ exists_value?_iff_mem
  rw [List.mem_map]
  constructor
  · rintro ⟨f, hf, rfl⟩
    exact ⟨f.2, mem_sortFields_iff.mp hf⟩
  · rintro ⟨v, hv⟩
    exact ⟨(key, v), mem_sortFields_iff.mpr hv, rfl⟩

theorem forall_key_sortFields_iff {p : String → Prop} :
    (∀ f ∈ sortFields fields, p f.1) ↔ ∀ f ∈ fields, p f.1 := by
  have hkeys : ∀ l : List (String × Json), (∀ f ∈ l, p f.1) ↔ ∀ key ∈ l.map (·.1), p key :=
    fun l => List.forall_mem_map.symm
  rw [hkeys, hkeys]
  exact forall_congr' fun key => imp_congr_left mem_keys_sortFields_iff

/-- Objects that say the same under every key have the same fields in order. -/
theorem sortFields_congr (h : value? fields = value? fields') :
    sortFields fields = sortFields fields' := by
  have hperm : (sortFields fields).Perm (sortFields fields') := by
    refine (List.perm_ext_iff_of_nodup (.of_map _ (nodup_keys_sortFields fields))
      (.of_map _ (nodup_keys_sortFields fields'))).mpr fun f => ?_
    rw [mem_sortFields_iff, mem_sortFields_iff, h]
  refine hperm.eq_of_pairwise (fun f f' _ _ hlt hgt => ?_) (pairwise_sortFields fields)
    (pairwise_sortFields fields')
  exact absurd (String.lt_trans hlt hgt) (String.lt_irrefl _)

end Json

end SelectQuery
