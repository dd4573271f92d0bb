import SelectQuery.Proofs.Decode.Forms
import SelectQuery.Proofs.Json.Same

/-!
# Reading and writing

A type is read from values of many forms and written in one of them. What is read says all about the
value as far as the type goes: it is read again from what it is written as, and values are read
alike exactly when they are written alike (`Canonical`). The forms that a decoder takes are put
together from those of its parts (`Takes`); records of two parts, which entries of a query are, have
one form with parameters (`Json.IsPair`).
-/

namespace SelectQuery

open Json (value?)

/-- A decoder takes the values of a form, whatever the order of the fields in objects. -/
structure Takes {α : Type} (form : Json → α → Prop) (read : Decoder Json α) : Prop where
  reads : ∀ v x, read v = .ok x ↔ form v x
  same : ∀ v w, v.Same w → read v = read w

/-- A type that is read from the values of a form, and written in one way. -/
structure Canonical {α : Type} (form : Json → α → Prop) (read : Decoder Json α)
    (write : α → Json) : Prop extends Takes form read where
  /-- The fields of an object may come in any order. -/
  reordered : ∀ fields fields', (fields.map (·.1)).Nodup → fields.Perm fields' →
    read (.obj fields) = read (.obj fields')
  /-- What was written is read back. -/
  read_write : ∀ x, read (write x) = .ok x
  /-- Values that are read alike are those that are written alike. -/
  eq_iff : ∀ v w x y, read v = .ok x → read w = .ok y → (x = y ↔ (write x).Same (write y))
  /-- What was read and written is read and written unchanged. -/
  rewrite : ∀ v x, read v = .ok x → ∃ y, read (write x) = .ok y ∧ write y = write x

theorem Takes.canonical {α : Type} {form : Json → α → Prop} {read : Decoder Json α}
    (h : Takes form read) {write : α → Json} (read_write : ∀ x, read (write x) = .ok x) :
    Canonical form read write where
  toTakes := h
  reordered := fun _ _ hnodup hperm => h.same _ _ (Json.same_of_perm hperm hnodup)
  read_write := read_write
  eq_iff := by
    intro v w x y _ _
    constructor
    · rintro rfl
      rfl
    · intro hsame
      have hread := h.same _ _ hsame
      rw [read_write, read_write] at hread
      exact Except.ok.inj hread
  rewrite := fun _ x _ => ⟨x, read_write x, rfl⟩

namespace Takes

theorem text : Takes Json.IsText Decoder.text :=
  ⟨fun _ _ => Decoder.text_eq_ok_iff, fun _ _ h => Decoder.text_congr h.alike⟩

theorem bool : Takes Json.IsBool Decoder.bool :=
  ⟨fun _ _ => Decoder.bool_eq_ok_iff, fun _ _ h => Decoder.bool_congr h.alike⟩

theorem optional {α : Type} {form : Json → α → Prop} {read : Decoder Json α}
    (h : Takes form read) : Takes (Json.OrNull form) (Decoder.optional read) :=
  ⟨fun _ _ => Decoder.optional_eq_ok_iff h.reads,
    fun v w hvw => Decoder.optional_congr hvw.alike (h.same v w hvw)⟩

theorem choice {α : Type} {name : α → String} {choices : List α}
    (hinj : Function.Injective name) (hall : ∀ a, a ∈ choices) :
    Takes (Json.NamedBy name) (Decoder.choice name choices) :=
  ⟨fun _ _ => Decoder.choice_eq_ok_iff hinj hall,
    fun _ _ => Decoder.choice_congr (fun _ _ => Json.Same.alike) name choices⟩

end Takes

theorem RecordShape.Laid.respects {ν σ : Type} {r : RecordShape ν σ} {slots : List (Slot ν σ)}
    {R : ν → ν → Prop} (h : r.Laid slots)
    (hread : ∀ slot ∈ slots, ∀ v w, R v w → slot.read v = slot.read w) : r.Respects R := by
  rw [RecordShape.Respects, h.fields_eq, List.forall_mem_map]
  intro slot hslot v w hvw
  exact congrArg (slot.set <$> ·) (hread slot hslot v w hvw)

/-! ### Records of two parts -/

/-- The form of what is given; where nothing is, the default stands for it, if there is one. -/
def Json.Given {α : Type} (form : Json → α → Prop) (default : Option α) : Option Json → α → Prop
  | none, a => default = some a
  | some v, a => form v a

/-- An object with two parts under their keys, or a list of the two. In an object the second may be
left out if it has a default; other keys mean nothing. -/
inductive Json.IsPair {α β : Type} (first second : String) (form₁ : Json → α → Prop)
    (form₂ : Json → β → Prop) (default : Option β) : Json → α → β → Prop where
  | object {fields : List (String × Json)} {v : Json} {a : α} {b : β}
      (hfirst : value? fields first = some v) (h₁ : form₁ v a)
      (h₂ : Given form₂ default (value? fields second) b) :
      IsPair first second form₁ form₂ default (.obj fields) a b
  | list {v w : Json} {a : α} {b : β} (h₁ : form₁ v a) (h₂ : form₂ w b) :
      IsPair first second form₁ form₂ default (.arr [v, w]) a b

namespace Slot

variable {σ : Type} {slot : Slot Json σ} {form : Json → slot.Value → Prop} {start x : σ}
  {given : Option Json}

/-- What stands for a field that is left out of an object. -/
def default? (slot : Slot Json σ) (start : σ) : Option slot.Value :=
  if slot.presence = .required then none else some (slot.get start)

theorem holds_obj_iff (hform : ∀ w a, slot.read w = .ok a ↔ form w a)
    (fields : List (String × Json)) :
    slot.Holds start x (.obj fields) given ↔
      Json.Given form (slot.default? start) given (slot.get x) := by
  cases given with
  | none =>
    show slot.get x = slot.get start ∧ (slot.presence = .required → none ≠ none) ↔
      slot.default? start = some (slot.get x)
    rw [default?]
    split
    · rename_i hrequired
      exact iff_of_false (fun h => h.2 hrequired rfl) nofun
    · rename_i hother
      rw [and_iff_left fun hrequired => absurd hrequired hother, Option.some.injEq, eq_comm]
  | some w =>
    rw [Holds, and_iff_left fun _ => Option.some_ne_none w]
    exact hform w (slot.get x)

theorem holds_arr_iff (hform : ∀ w a, slot.read w = .ok a ↔ form w a)
    (hlisted : slot.presence ≠ .defaulted) (items : List Json) :
    slot.Holds start x (.arr items) given ↔ ∃ w, given = some w ∧ form w (slot.get x) := by
  cases given with
  | none => exact iff_of_false (fun h => h.2 hlisted rfl) nofun
  | some w =>
    rw [Holds, and_iff_left fun _ => Option.some_ne_none w]
    constructor
    · intro h
      exact ⟨w, rfl, (hform w _).mp h⟩
    · rintro ⟨_, ⟨⟩, h⟩
      exact (hform w _).mpr h

end Slot

/-! In a list the first item is for the first field, and the others are for the other fields. -/

theorem Json.given?_cons_self (key : String) (keys : List String) (a : Json) (rest : List Json) :
    given? (key :: keys) key (.arr (a :: rest)) = some a := by
  rw [given?, List.zip_cons_cons, lookup_cons_eq_ite, if_pos rfl]

theorem Json.given?_cons_of_ne {key k : String} (hne : key ≠ k) (keys : List String) (a : Json)
    (rest : List Json) :
    given? (k :: keys) key (.arr (a :: rest)) = given? keys key (.arr rest) := by
  rw [given?, List.zip_cons_cons, lookup_cons_eq_ite, if_neg hne, given?]

theorem Decoder.record_pair_eq_ok_iff {σ : Type} {r : RecordShape Json σ} {s₁ s₂ : Slot Json σ}
    (h : r.Laid [s₁, s₂]) (hopen : r.closed = false) (hrequired : s₁.presence = .required)
    (hlisted : s₂.presence ≠ .defaulted) {form₁ : Json → s₁.Value → Prop}
    {form₂ : Json → s₂.Value → Prop} (hform₁ : ∀ w a, s₁.read w = .ok a ↔ form₁ w a)
    (hform₂ : ∀ w a, s₂.read w = .ok a ↔ form₂ w a) {v : Json} {x : σ} :
    record r v = .ok x ↔
      v.IsPair s₁.key s₂.key form₁ form₂ (s₂.default? r.start) (s₁.get x) (s₂.get x) := by
  have hkeys : r.keys = [s₁.key, s₂.key] := h.keys_eq
  have hne : s₂.key ≠ s₁.key := by
    have hnodup := hkeys ▸ h.nodup
    simpa [eq_comm] using hnodup
  rw [record_eq_ok_iff h]
  simp only [List.forall_mem_cons]
  cases v with
  | obj fields =>
    rw [Slot.holds_iff_given hrequired hform₁, Slot.holds_obj_iff hform₂]
    constructor
    · rintro ⟨-, ⟨w, hw, h₁⟩, h₂, -⟩
      exact .object hw h₁ h₂
    · rintro (⟨hw, h₁, h₂⟩)
      exact ⟨fun hclosed => absurd (hopen.symm.trans hclosed) nofun, ⟨_, hw, h₁⟩, h₂, nofun⟩
  | arr items =>
    rw [Slot.holds_iff_given hrequired hform₁, Slot.holds_arr_iff hform₂ hlisted, hkeys]
    have hgiven : ∀ a b rest, Json.given? [s₁.key, s₂.key] s₂.key (.arr (a :: b :: rest)) =
        some b := by
      intro a b rest
      rw [Json.given?_cons_of_ne hne, Json.given?_cons_self]
    constructor
    · rintro ⟨hlength, ⟨w₁, hw₁, h₁⟩, ⟨w₂, hw₂, h₂⟩, -⟩
      rcases items with _ | ⟨a, _ | ⟨b, _ | ⟨c, rest⟩⟩⟩
      · cases hw₁
      · rw [Json.given?_cons_of_ne hne] at hw₂
        cases hw₂
      · rw [Json.given?_cons_self] at hw₁
        rw [hgiven] at hw₂
        rw [Option.some.inj hw₁, Option.some.inj hw₂]
        exact .list h₁ h₂
      · simp [Json.IsRecord] at hlength
    · rintro (_ | ⟨h₁, h₂⟩)
      exact ⟨Nat.le_refl 2, ⟨_, Json.given?_cons_self .., h₁⟩, ⟨_, hgiven _ _ _, h₂⟩, nofun⟩
  | _ => exact iff_of_false (fun h => h.1) nofun

/-- A record of two fields is read from the values of its form. -/
theorem Takes.pair {σ : Type} {r : RecordShape Json σ} {s₁ s₂ : Slot Json σ}
    (h : r.Laid [s₁, s₂]) (hopen : r.closed = false) (hrequired : s₁.presence = .required)
    (hlisted : s₂.presence ≠ .defaulted) {form₁ : Json → s₁.Value → Prop}
    {form₂ : Json → s₂.Value → Prop} (h₁ : Takes form₁ s₁.read) (h₂ : Takes form₂ s₂.read) :
    Takes (fun v x =>
        v.IsPair s₁.key s₂.key form₁ form₂ (s₂.default? r.start) (s₁.get x) (s₂.get x))
      (Decoder.record r) where
  reads := fun _ _ =>
    Decoder.record_pair_eq_ok_iff h hopen hrequired hlisted h₁.reads h₂.reads
  same := by
    intro v w hvw
    refine Decoder.record_congr (h.respects ?_) hvw.alike
    exact List.forall_mem_cons.mpr ⟨h₁.same, List.forall_mem_singleton.mpr h₂.same⟩

end SelectQuery
