import Mathlib.Data.List.Forall2
import Mathlib.Data.List.Nodup
import SelectQuery.Decode.Json
import SelectQuery.Decode.Record

/-!
# Reading back what was written

A value that was written field by field is decoded field by field: when every entry is taken by a
field and no required field is missing, the record is what the changes make of the start
(`record_eq_ok`). The other lemmas say the same of the values in the fields.
-/

namespace SelectQuery

theorem map_eq_ok_iff {α β ε : Type} {f : α → β} {x : Except ε α} {b : β} :
    f <$> x = .ok b ↔ ∃ a, x = .ok a ∧ f a = b := by
  cases x <;> simp

/-- A traversal succeeds when every step does, with the results of the steps. -/
theorem mapM_eq_ok_iff {α β ε : Type} {f : α → Except ε β} {xs : List α} {ys : List β} :
    xs.mapM f = .ok ys ↔ List.Forall₂ (fun x y => f x = .ok y) xs ys := by
  induction xs generalizing ys with
  | nil => cases ys <;> simp [pure, Except.pure]
  | cons x xs ih =>
    rw [List.mapM_cons]
    cases hx : f x with
    | error e => cases ys <;> simp [bind, Except.bind, hx]
    | ok y =>
      cases hxs : xs.mapM f with
      | error e => cases ys <;> simp [bind, Except.bind, hx, ← ih, hxs]
      | ok ys' => cases ys <;> simp [bind, Except.bind, pure, Except.pure, hx, ← ih, hxs]

/-- A traversal fails where the first of its steps does. -/
theorem mapM_eq_error_iff {α β ε : Type} {f : α → Except ε β} {xs : List α} {e : ε} :
    xs.mapM f = .error e ↔ ∃ before x after, xs = before ++ x :: after ∧
      (∀ y ∈ before, ∃ b, f y = .ok b) ∧ f x = .error e := by
  induction xs with
  | nil => simp [pure, Except.pure]
  | cons x xs ih =>
    rw [List.mapM_cons]
    constructor
    · intro h
      cases hx : f x with
      | error e' =>
        rw [hx] at h
        obtain rfl : e' = e := Except.error.inj h
        exact ⟨[], x, xs, rfl, nofun, hx⟩
      | ok b =>
        cases hxs : xs.mapM f with
        | error e' =>
          rw [hx, hxs] at h
          obtain rfl : e' = e := Except.error.inj h
          obtain ⟨before, y, after, rfl, hbefore, hy⟩ := ih.mp hxs
          exact ⟨x :: before, y, after, rfl, List.forall_mem_cons.mpr ⟨⟨b, hx⟩, hbefore⟩, hy⟩
        | ok bs =>
          rw [hx, hxs] at h
          cases h
    · rintro ⟨before, y, after, hsplit, hbefore, hy⟩
      rcases List.cons_eq_append_iff.mp hsplit with ⟨rfl, hcons⟩ | ⟨before', rfl, hrest⟩
      · obtain ⟨rfl, rfl⟩ := List.cons.inj hcons
        rw [hy]
        rfl
      · obtain ⟨⟨b, hx⟩, hbefore'⟩ := List.forall_mem_cons.mp hbefore
        rw [hx, ih.mpr ⟨before', y, after, hrest, hbefore', hy⟩]
        rfl

theorem exists_mapM_eq_ok {α β ε : Type} {f : α → Except ε β} {xs : List α}
    (h : ∀ x ∈ xs, ∃ y, f x = .ok y) : ∃ ys, xs.mapM f = .ok ys := by
  cases hxs : xs.mapM f with
  | ok ys => exact ⟨ys, rfl⟩
  | error e =>
    obtain ⟨before, x, after, rfl, -, hx⟩ := mapM_eq_error_iff.mp hxs
    obtain ⟨y, hy⟩ := h x (by simp)
    rw [hx] at hy
    cases hy

theorem mapM_map_eq_ok {α β γ ε : Type} {f : β → Except ε γ} {g : α → β} {h : α → γ}
    (hf : ∀ a, f (g a) = .ok (h a)) (xs : List α) : (xs.map g).mapM f = .ok (xs.map h) := by
  rw [mapM_eq_ok_iff, List.forall₂_map_left_iff, List.forall₂_map_right_iff, List.forall₂_same]
  exact fun a _ => hf a

/-- Entries that are there only when they have a value. -/
theorem forall₂_toList {α β γ : Type} {R : β → γ → Prop} {f : α → β} {g : α → γ} {o : Option α}
    (h : ∀ a ∈ o, R (f a) (g a)) : List.Forall₂ R (o.toList.map f) (o.toList.map g) := by
  rw [List.forall₂_map_left_iff, List.forall₂_map_right_iff, List.forall₂_same]
  exact fun a ha => h a (Option.mem_toList.mp ha)

namespace RecordShape

variable {ν σ : Type} {r : RecordShape ν σ}

theorem entry_eq_ok {α : Type} {key : String} {presence : Presence} {d : Decoder ν α}
    {set : α → σ → σ} {v : ν} {a : α} {change : σ → σ}
    (hfield : r.field? key = some (.of key presence d set)) (h : d v = .ok a)
    (hchange : set a = change) : r.entry (.text key, v) = .ok change := by
  rw [entry, hfield, ← hchange]
  show set <$> d v = .ok (set a)
  rw [h]
  rfl

theorem entry_eq_error {α : Type} {key : String} {presence : Presence} {d : Decoder ν α}
    {set : α → σ → σ} {v : ν} {e : DecodeError}
    (hfield : r.field? key = some (.of key presence d set)) (h : d v = .error e) :
    r.entry (.text key, v) = .error e := by
  rw [entry, hfield]
  show set <$> d v = .error e
  rw [h]
  rfl

theorem ofEntries_eq_ok {entries : List (Key × ν)} {changes : List (σ → σ)}
    (hentries : List.Forall₂ (fun e change => r.entry e = .ok change) entries changes)
    (hmissing : r.missing? (entries.map (·.1)) = none) :
    r.ofEntries entries = .ok (r.fill changes) := by
  rw [ofEntries, mapM_eq_ok_iff.mpr hentries]
  simp only [bind, Except.bind, hmissing]
  rfl

end RecordShape

namespace Decoder

variable {ν σ : Type} [Format ν]

theorem record_eq_ok {r : RecordShape ν σ} {v : ν} {entries : List (Key × ν)}
    {changes : List (σ → σ)} (hlayer : Format.layer v = .record entries)
    (hentries : List.Forall₂ (fun e change => r.entry e = .ok change) entries changes)
    (hmissing : r.missing? (entries.map (·.1)) = none) :
    record r v = .ok (r.fill changes) := by
  rw [record, hlayer]
  exact RecordShape.ofEntries_eq_ok hentries hmissing

/-- A shorthand in full is read as its record, provided that no field is given twice. -/
theorem shorthand_eq_ok_iff_of_layer {α : Type} {r : RecordShape ν σ} {bare : String → α}
    {full : σ → α} {v : ν} {fields : List (String × ν)}
    (hlayer : Format.layer v = .record (fields.map fun f => (.text f.1, f.2)))
    (hnodup : (fields.map (·.1)).Nodup) {o : α} :
    shorthand r bare full v = .ok o ↔ ∃ x, record r v = .ok x ∧ full x = o := by
  have hbyName : r.byName (fields.map fun f => (.text f.1, f.2)) =
      fields.map fun f => (.text f.1, f.2) := by
    rw [RecordShape.byName, List.filterMap_map]
    exact congrFun List.filterMap_eq_map fields
  have hkeys : ((fields.map fun f => (Key.text f.1, f.2)).map (·.1)).Nodup := by
    have htexts : ((fields.map (·.1)).map Key.text).Nodup :=
      List.Nodup.map (fun _ _ h => Key.text.inj h) hnodup
    rwa [List.map_map] at htexts ⊢
  have hrecord : record r v = r.ofEntries (fields.map fun f => (.text f.1, f.2)) := by
    rw [record, hlayer]
  rw [hrecord, shorthand, hlayer]
  simp only [hbyName, if_pos hkeys]
  cases r.ofEntries (fields.map fun f => (.text f.1, f.2)) <;> simp

/-! ### Values of fields in JSON -/

theorem text_str (s : String) : text (Json.str s) = .ok s := rfl

theorem bool_bool (b : Bool) : bool (Json.bool b) = .ok b := rfl

theorem optional_eq_map {α : Type} {d : Decoder Json α} {v : Json} (hv : v ≠ .null) :
    optional d v = some <$> d v := by
  cases v with
  | null => exact absurd rfl hv
  | _ => rfl

theorem optional_of_ne_null {α : Type} {d : Decoder Json α} {v : Json} {a : α} (hv : v ≠ .null)
    (h : d v = .ok a) : optional d v = .ok (some a) := by
  rw [optional_eq_map hv, h]
  rfl

/-- An optional value is null or the value's own form. -/
theorem optional_ofOption {α : Type} {d : Decoder Json α} {toJson : α → Json}
    (hnull : ∀ a, toJson a ≠ .null) (h : ∀ a, d (toJson a) = .ok a) (o : Option α) :
    optional d (.ofOption toJson o) = .ok o := by
  cases o with
  | none => rfl
  | some a => exact optional_of_ne_null (hnull a) (h a)

theorem listOf_toJson {α : Type} {d : Decoder Json α} {toJson : α → Json}
    (h : ∀ a, d (toJson a) = .ok a) (l : List α) : listOf d (.arr (l.map toJson)) = .ok l := by
  have hmap := mapM_map_eq_ok (h := id) h l
  rwa [List.map_id] at hmap

end Decoder

end SelectQuery
