import SelectQuery.Proofs.Decode.Layers
import SelectQuery.Proofs.Json.Fields
import SelectQuery.Decode.Json

/-!
# Values up to the order of fields

The fields of an object come in no order of their own. Values are compared with the fields of every
object in the order of their keys (`Json.Same`), and no decoder tells values apart that are the same
in this sense: their layers differ in parts that are the same (`Json.Same.alike`).
-/

namespace SelectQuery

namespace Json

mutual

/-- The value with the fields of every object in it in the order of their keys. -/
def ordered : Json → Json
  | arr items => arr (orderedItems items)
  | obj fields => obj (sortFields (orderedFields fields))
  | v => v

def orderedItems : List Json → List Json
  | [] => []
  | v :: vs => ordered v :: orderedItems vs

def orderedFields : List (String × Json) → List (String × Json)
  | [] => []
  | (k, v) :: fs => (k, ordered v) :: orderedFields fs

end

/-- The values are one and the same up to the order of fields. -/
def Same (v w : Json) : Prop := v.ordered = w.ordered

theorem Same.symm {v w : Json} (h : v.Same w) : w.Same v := Eq.symm h

theorem orderedItems_eq (items : List Json) : orderedItems items = items.map ordered := by
  induction items with
  | nil => rfl
  | cons v vs ih => rw [orderedItems, ih, List.map_cons]

theorem orderedFields_eq (fields : List (String × Json)) :
    orderedFields fields = fields.map fun f => (f.1, f.2.ordered) := by
  induction fields with
  | nil => rfl
  | cons f fs ih => rw [orderedFields, ih, List.map_cons]

variable {fields fields' : List (String × Json)}

theorem insertField_map (g : Json → Json) (k : String) (v : Json) (fields : List (String × Json)) :
    insertField k (g v) (fields.map fun f => (f.1, g f.2)) =
      (insertField k v fields).map fun f => (f.1, g f.2) := by
  induction fields with
  | nil => rfl
  | cons f rest ih =>
    rw [List.map_cons, insertField, insertField, ih]
    split
    · rfl
    · split <;> rfl

/-- Changing the values under the keys leaves the fields in order. -/
theorem sortFields_map (g : Json → Json) (fields : List (String × Json)) :
    sortFields (fields.map fun f => (f.1, g f.2)) =
      (sortFields fields).map fun f => (f.1, g f.2) := by
  have hfold : ∀ fields sorted : List (String × Json),
      (fields.map fun f => (f.1, g f.2)).foldl (fun sorted f => insertField f.1 f.2 sorted)
          (sorted.map fun f => (f.1, g f.2)) =
        (fields.foldl (fun sorted f => insertField f.1 f.2 sorted) sorted).map
          fun f => (f.1, g f.2) := by
    intro fields
    induction fields with
    | nil => exact fun _ => rfl
    | cons f rest ih =>
      intro sorted
      rw [List.map_cons, List.foldl_cons, List.foldl_cons, insertField_map, ih]
  exact hfold fields []

theorem value?_sortFields (fields : List (String × Json)) :
    value? (sortFields fields) = value? fields := by
  funext key
  refine Option.ext fun v => ?_
  rw [value?_eq_some_iff_mem (nodup_keys_sortFields fields), mem_sortFields_iff]

theorem ordered_obj (fields : List (String × Json)) :
    (obj fields).ordered = obj ((sortFields fields).map fun f => (f.1, f.2.ordered)) := by
  rw [ordered, orderedFields_eq, sortFields_map]

theorem ordered_arr (items : List Json) : (arr items).ordered = arr (items.map ordered) := by
  rw [ordered, orderedItems_eq]

/-! ### What decoders see -/

theorem layer_ordered (v : Json) : v.ordered.layer = v.layer.map ordered := by
  cases v with
  | arr items =>
    rw [ordered_arr]
    rfl
  | obj fields =>
    have hsorted : sortFields (sortFields fields) = sortFields fields :=
      sortFields_congr (value?_sortFields fields)
    rw [ordered_obj, layer, sortFields_map, hsorted, layer, Layer.map, List.map_map, List.map_map]
    rfl
  | _ => rfl

theorem Same.alike {v w : Json} (h : v.Same w) :
    Layer.Alike Same (Format.layer v) (Format.layer w) := by
  have hlayers : v.layer.map ordered = w.layer.map ordered := by
    rw [← layer_ordered, ← layer_ordered, h]
  exact .of_map_eq hlayers

theorem same_of_perm (hperm : fields.Perm fields') (h : (fields.map (·.1)).Nodup) :
    (obj fields).Same (obj fields') := by
  rw [Same, ordered_obj, ordered_obj, sortFields_congr (value?_congr_of_perm hperm h)]

end Json

end SelectQuery
