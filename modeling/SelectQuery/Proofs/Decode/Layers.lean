import SelectQuery.Proofs.Decode.Record

/-!
# Values that decoding cannot tell apart

A decoder sees the outermost layer of a value, and what lies inside it through the decoders of the
parts. So if the layers of related values differ in related parts only (`Layer.Alike`), related
values decode alike, whether they are read or refused (`text_congr` to `record_congr`).
-/

namespace SelectQuery

/-- Two layers that differ in related parts only. -/
inductive Layer.Alike {ν : Type} (R : ν → ν → Prop) : Layer ν → Layer ν → Prop
  | atom (a : Atom) : Alike R (.atom a) (.atom a)
  | list {items items' : List ν} (h : List.Forall₂ R items items') :
    Alike R (.list items) (.list items')
  | record {entries entries' : List (Key × ν)}
    (h : List.Forall₂ (fun e e' => e.1 = e'.1 ∧ R e.2 e'.2) entries entries') :
    Alike R (.record entries) (.record entries')

/-- The layer with its parts changed. -/
def Layer.map {ν : Type} (g : ν → ν) : Layer ν → Layer ν
  | .atom a => .atom a
  | .list items => .list (items.map g)
  | .record entries => .record (entries.map fun e => (e.1, g e.2))

/-- Layers that become one by a change of their parts differed in what the change makes equal. -/
theorem Layer.Alike.of_map_eq {ν : Type} {g : ν → ν} {l m : Layer ν} (h : l.map g = m.map g) :
    Alike (fun v w => g v = g w) l m := by
  cases l with
  | atom a =>
    cases m with
    | atom b => exact Layer.atom.inj h ▸ .atom a
    | list _ => cases h
    | record _ => cases h
  | list items =>
    cases m with
    | atom _ => cases h
    | list items' =>
      have hitems := List.forall₂_eq_eq_eq ▸ Layer.list.inj h
      exact .list (List.forall₂_map_left_iff.mp (List.forall₂_map_right_iff.mp hitems))
    | record _ => cases h
  | record entries =>
    cases m with
    | atom _ => cases h
    | list _ => cases h
    | record entries' =>
      have hentries := List.forall₂_eq_eq_eq ▸ Layer.record.inj h
      have hpairs := List.forall₂_map_left_iff.mp (List.forall₂_map_right_iff.mp hentries)
      exact .record (hpairs.imp fun _ _ hpair => Prod.mk.inj hpair)

theorem Layer.Alike.found_eq {ν : Type} {R : ν → ν → Prop} {l m : Layer ν} (h : Alike R l m) :
    l.found = m.found := by
  cases h <;> rfl

theorem mapM_congr_of_forall₂ {α β ε : Type} {f : α → Except ε β} {xs ys : List α}
    (h : List.Forall₂ (fun x y => f x = f y) xs ys) : xs.mapM f = ys.mapM f := by
  induction h with
  | nil => rfl
  | cons hxy _ ih => rw [List.mapM_cons, List.mapM_cons, hxy, ih]

namespace RecordShape

variable {ν σ : Type} {R : ν → ν → Prop} {r : RecordShape ν σ}

/-- Every field is read from related values alike. -/
def Respects (r : RecordShape ν σ) (R : ν → ν → Prop) : Prop :=
  ∀ f ∈ r.fields, ∀ v w, R v w → f.put v = f.put w

theorem entry_congr (hr : r.Respects R) (key : Key) {v w : ν} (h : R v w) :
    r.entry (key, v) = r.entry (key, w) := by
  cases key with
  | text s =>
    rw [entry, entry]
    cases hfield : r.field? s with
    | none => rfl
    | some f => exact hr f (List.mem_of_find?_eq_some hfield) v w h
  | natural n => rfl
  | other found => rfl

theorem ofEntries_congr (hr : r.Respects R) {entries entries' : List (Key × ν)}
    (h : List.Forall₂ (fun e e' => e.1 = e'.1 ∧ R e.2 e'.2) entries entries') :
    r.ofEntries entries = r.ofEntries entries' := by
  have hchanges : entries.mapM r.entry = entries'.mapM r.entry := by
    refine mapM_congr_of_forall₂ (h.imp ?_)
    rintro ⟨key, v⟩ ⟨key', w⟩ ⟨rfl, hvw⟩
    exact entry_congr hr key hvw
  have hkeys : entries.map (·.1) = entries'.map (·.1) := by
    rw [← List.forall₂_eq_eq_eq, List.forall₂_map_left_iff, List.forall₂_map_right_iff]
    exact h.imp fun _ _ hboth => hboth.1
  rw [ofEntries, ofEntries, hchanges, hkeys]

theorem elements_congr {fs : List (Field ν σ)} (hfs : ∀ f ∈ fs, ∀ v w, R v w → f.put v = f.put w)
    {items items' : List ν} (h : List.Forall₂ R items items') (n : Nat) :
    r.elements fs items n = r.elements fs items' n := by
  induction fs generalizing items items' n with
  | nil =>
    cases h with
    | nil => rfl
    | cons _ hrest => simp [elements, hrest.length_eq]
  | cons f fs ih =>
    obtain ⟨hf, hfs⟩ := List.forall_mem_cons.mp hfs
    cases h with
    | nil => rfl
    | cons hvw hrest => rw [elements, elements, hf _ _ hvw, ih hfs hrest]

end RecordShape

namespace Decoder

variable {ν α σ : Type} [Format ν] {R : ν → ν → Prop} {v w : ν}

theorem wrongType_congr (h : Layer.Alike R (Format.layer v) (Format.layer w)) (wanted : Wanted) :
    (wrongType wanted v : Except DecodeError α) = wrongType wanted w := by
  rw [wrongType, wrongType, h.found_eq]

theorem text_congr (h : Layer.Alike R (Format.layer v) (Format.layer w)) : text v = text w := by
  rw [text, text, wrongType_congr h]
  generalize Format.layer v = l at h
  generalize Format.layer w = m at h
  cases h <;> rfl

theorem bool_congr (h : Layer.Alike R (Format.layer v) (Format.layer w)) : bool v = bool w := by
  rw [bool, bool, wrongType_congr h]
  generalize Format.layer v = l at h
  generalize Format.layer w = m at h
  cases h <;> rfl

theorem optional_congr {d : Decoder ν α} (h : Layer.Alike R (Format.layer v) (Format.layer w))
    (hd : d v = d w) : optional d v = optional d w := by
  rw [optional, optional, hd]
  generalize Format.layer v = l at h
  generalize Format.layer w = m at h
  cases h <;> rfl

/-- Only null may stand beside the name of a choice. -/
theorem unit_congr (hR : ∀ v w, R v w → Layer.Alike R (Format.layer v) (Format.layer w))
    (h : R v w) (a : α) :
    (match Format.layer v with
      | .atom .null => Except.ok a
      | _ => wrongType .unit v) =
    match Format.layer w with
      | .atom .null => .ok a
      | _ => wrongType .unit w := by
  have hlayer := hR v w h
  rw [wrongType_congr hlayer]
  generalize Format.layer v = l at hlayer
  generalize Format.layer w = m at hlayer
  cases hlayer <;> rfl

theorem choice_congr (hR : ∀ v w, R v w → Layer.Alike R (Format.layer v) (Format.layer w))
    (name : α → String) (choices : List α) (h : R v w) :
    choice name choices v = choice name choices w := by
  have hlayer := hR v w h
  rw [choice, choice, wrongType_congr hlayer]
  generalize Format.layer v = l at hlayer
  generalize Format.layer w = m at hlayer
  cases hlayer with
  | atom a => rfl
  | list _ => rfl
  | record hentries =>
    cases hentries with
    | nil => rfl
    | @cons e e' _ _ hfirst hrest =>
      obtain ⟨key, payload⟩ := e
      obtain ⟨_, payload'⟩ := e'
      obtain ⟨rfl, hpayload⟩ := hfirst
      cases hrest with
      | cons _ _ => cases key <;> rfl
      | nil =>
        cases key with
        | text s =>
          have hread := congrArg (named name choices s >>= ·) (funext (unit_congr hR hpayload))
          exact congrArg
            (fun x => if Format.recordsAsChoices ν then x else wrongType .choice w) hread
        | natural n => rfl
        | other found => rfl

theorem record_congr {r : RecordShape ν σ} (hr : r.Respects R)
    (h : Layer.Alike R (Format.layer v) (Format.layer w)) : record r v = record r w := by
  rw [record, record, wrongType_congr h]
  generalize Format.layer v = l at h
  generalize Format.layer w = m at h
  cases h with
  | atom a => rfl
  | @list items items' hitems =>
    have hread : r.ofItems items = r.ofItems items' := by
      rw [RecordShape.ofItems, RecordShape.ofItems, RecordShape.elements_congr hr hitems]
    simp only [hread]
  | record hentries => exact RecordShape.ofEntries_congr hr hentries

end Decoder

end SelectQuery
