import SelectQuery.Proofs.Decode.Slot

/-!
# Forms in JSON

How values of a few kinds are written in JSON, said of the written value alone; each decoder takes
exactly its form. A record is an object that gives its fields by key, or a list that gives them by
position (`record_eq_ok_iff`).
-/

namespace SelectQuery

namespace Json

variable {α : Type}

/-- The value for a field of a record with these fields: an object gives it under its key, a list in
its position. -/
def given? (keys : List String) (key : String) : Json → Option Json
  | obj fields => value? fields key
  | arr items => (keys.zip items).lookup key
  | _ => none

/-- A record with these fields is an object, which may have other keys unless it is closed, or a
list of no more items than there are fields. -/
def IsRecord (keys : List String) (closed : Bool) : Json → Prop
  | obj fields => closed = true → ∀ f ∈ fields, f.1 ∈ keys
  | arr items => items.length ≤ keys.length
  | _ => False

def IsText (v : Json) (s : String) : Prop := v = .str s

def IsBool (v : Json) (b : Bool) : Prop := v = .bool b

/-- Null for nothing, or the form of what there is. -/
inductive OrNull (form : Json → α → Prop) : Json → Option α → Prop where
  | null : OrNull form .null none
  | value {v : Json} {a : α} (hne : v ≠ .null) (h : form v a) : OrNull form v (some a)

/-- A field left out for its default, or its form. -/
def OrDefault (form : Json → α → Prop) (default : α) : Option Json → α → Prop
  | none, a => a = default
  | some v, a => form v a

/-- An object with a single key. -/
def HasOnly (fields : List (String × Json)) (key : String) (payload : Json) : Prop :=
  ∀ k v, value? fields k = some v ↔ k = key ∧ v = payload

/-- A name alone, or as the single key of an object that holds null. -/
inductive NamedBy (name : α → String) : Json → α → Prop where
  | alone (a : α) : NamedBy name (.str (name a)) a
  | key {fields : List (String × Json)} (a : α) (h : HasOnly fields (name a) .null) :
      NamedBy name (.obj fields) a

theorem sortFields_eq_singleton_iff {fields : List (String × Json)} {key : String}
    {payload : Json} : sortFields fields = [(key, payload)] ↔ HasOnly fields key payload := by
  constructor
  · intro h k v
    rw [← mem_sortFields_iff, h, List.mem_singleton, Prod.mk.injEq]
  · intro h
    have hsame : value? fields = value? [(key, payload)] := by
      funext k
      refine Option.ext fun v => ?_
      rw [h k v, value?_eq_some_iff_mem (by simp), List.mem_singleton,
        Prod.mk.injEq]
    rw [sortFields_congr hsame]
    rfl

theorem namedBy_obj_iff {name : α → String} {fields : List (String × Json)} {key : String}
    {payload : Json} (h : HasOnly fields key payload) {a : α} :
    NamedBy name (.obj fields) a ↔ name a = key ∧ payload = .null := by
  constructor
  · rintro (_ | ⟨_, hname⟩)
    have hsame := (h (name a) .null).mp ((hname (name a) .null).mpr ⟨rfl, rfl⟩)
    exact ⟨hsame.1, hsame.2.symm⟩
  · rintro ⟨rfl, rfl⟩
    exact .key a h

end Json

/-- Whether a field must be given in a record that is written this way. -/
def Presence.NeededIn (p : Presence) : Json → Prop
  | .arr _ => p ≠ .defaulted
  | _ => p = .required

namespace Slot

variable {σ : Type}

/-- What the place of a field holds when a record is read from `v`, which gives `given` for it. -/
def Holds (slot : Slot Json σ) (start x : σ) (v : Json) (given : Option Json) : Prop :=
  slot.Filled start x given ∧ (slot.presence.NeededIn v → given ≠ none)

theorem holds_iff_orDefault {slot : Slot Json σ} (hpresence : slot.presence = .defaulted)
    {form : Json → slot.Value → Prop} (hform : ∀ w a, slot.read w = .ok a ↔ form w a) {start x : σ}
    {v : Json} {given : Option Json} :
    slot.Holds start x v given ↔ Json.OrDefault form (slot.get start) given (slot.get x) := by
  have hneeded : ¬ slot.presence.NeededIn v := by
    rw [hpresence]
    cases v <;> simp [Presence.NeededIn]
  rw [Holds, and_iff_left fun h => absurd h hneeded]
  cases given with
  | none => rfl
  | some w => exact hform w (slot.get x)

theorem holds_iff_given {slot : Slot Json σ} (hpresence : slot.presence = .required)
    {form : Json → slot.Value → Prop} (hform : ∀ w a, slot.read w = .ok a ↔ form w a) {start x : σ}
    {v : Json} {given : Option Json} :
    slot.Holds start x v given ↔ ∃ w, given = some w ∧ form w (slot.get x) := by
  have hneeded : slot.presence.NeededIn v := by
    rw [hpresence]
    cases v <;> simp [Presence.NeededIn]
  cases given with
  | none => exact iff_of_false (fun h => h.2 hneeded rfl) nofun
  | some w =>
    constructor
    · rintro ⟨hx, -⟩
      exact ⟨w, rfl, (hform w _).mp hx⟩
    · rintro ⟨_, ⟨⟩, h⟩
      exact ⟨(hform w _).mpr h, nofun⟩

end Slot

namespace Decoder

variable {α σ : Type} {d : Decoder Json α} {form : Json → α → Prop} {v : Json}

theorem text_eq_ok_iff {s : String} : text v = .ok s ↔ v.IsText s := by
  cases v with
  | str t =>
    rw [text_str, Except.ok.injEq, Json.IsText, Json.str.injEq]
  | _ => exact iff_of_false nofun nofun

theorem bool_eq_ok_iff {b : Bool} : bool v = .ok b ↔ v.IsBool b := by
  cases v with
  | bool b' =>
    rw [bool_bool, Except.ok.injEq, Json.IsBool, Json.bool.injEq]
  | _ => exact iff_of_false nofun nofun

theorem bool_eq_error (h : ∀ b, v ≠ .bool b) :
    bool v = .error (.wrongType v.layer.found .bool) := by
  cases v with
  | bool b => exact absurd rfl (h b)
  | _ => rfl

theorem text_eq_error (h : ∀ t, v ≠ .str t) :
    text v = .error (.wrongType v.layer.found .text) := by
  cases v with
  | str t => exact absurd rfl (h t)
  | _ => rfl

theorem optional_eq_ok_iff (h : ∀ v a, d v = .ok a ↔ form v a) {o : Option α} :
    optional d v = .ok o ↔ Json.OrNull form v o := by
  by_cases hv : v = .null
  · subst hv
    have hnull : optional d Json.null = .ok none := rfl
    rw [hnull, Except.ok.injEq]
    constructor
    · rintro rfl
      exact .null
    · rintro (_ | ⟨hne, _⟩)
      · rfl
      · exact absurd rfl hne
  · rw [optional_eq_map hv, map_eq_ok_iff]
    constructor
    · rintro ⟨a, ha, rfl⟩
      exact .value hv ((h v a).mp ha)
    · rintro (_ | ⟨_, hform⟩)
      · exact absurd rfl hv
      · exact ⟨_, (h v _).mpr hform, rfl⟩

theorem named_eq_ok_iff {name : α → String} {choices : List α} (hinj : Function.Injective name)
    (hall : ∀ a, a ∈ choices) {s : String} {a : α} : named name choices s = .ok a ↔ name a = s := by
  rw [named]
  cases hfound : choices.find? (name · = s) with
  | none =>
    refine iff_of_false nofun fun hname => ?_
    exact absurd hname (by simpa using List.find?_eq_none.mp hfound a (hall a))
  | some b =>
    have hb : name b = s := by simpa using List.find?_some hfound
    rw [Except.ok.injEq, ← hb]
    exact ⟨fun h => h ▸ rfl, fun h => hinj h.symm⟩

theorem named_eq_error {name : α → String} {choices : List α} {s : String}
    (h : ∀ a ∈ choices, name a ≠ s) :
    named name choices s = .error (.unknownChoice s (choices.map name)) := by
  have hnone : choices.find? (name · = s) = none := by simpa using h
  rw [named, hnone]

theorem layer_obj (fields : List (String × Json)) : Format.layer (Json.obj fields) =
    .record ((Json.sortFields fields).map fun f => (.text f.1, f.2)) := rfl

theorem choice_str (name : α → String) (choices : List α) (s : String) :
    choice name choices (Json.str s) = named name choices s := rfl

theorem layer_of_hasOnly {fields : List (String × Json)} {key : String} {payload : Json}
    (h : Json.HasOnly fields key payload) :
    Format.layer (Json.obj fields) = .record [(.text key, payload)] := by
  rw [layer_obj, Json.sortFields_eq_singleton_iff.mpr h]
  rfl

theorem choice_of_hasOnly_null {name : α → String} {choices : List α}
    {fields : List (String × Json)} {key : String} (h : Json.HasOnly fields key .null) :
    choice name choices (Json.obj fields) = named name choices key := by
  rw [choice, layer_of_hasOnly h]
  show (named name choices key >>= fun a => .ok a) = named name choices key
  cases named name choices key <;> rfl

theorem choice_of_hasOnly {name : α → String} {choices : List α}
    {fields : List (String × Json)} {key : String} {payload : Json}
    (h : Json.HasOnly fields key payload) (hne : payload ≠ .null) :
    choice name choices (Json.obj fields) =
      (named name choices key >>= fun _ => wrongType .unit payload) := by
  rw [choice, layer_of_hasOnly h]
  cases payload with
  | null => exact absurd rfl hne
  | _ => rfl

theorem choice_not_single {name : α → String} {choices : List α} {fields : List (String × Json)}
    (h : ∀ key payload, ¬ Json.HasOnly fields key payload) :
    choice name choices (Json.obj fields) = .error .notSingleKey := by
  rw [choice, layer_obj]
  cases hsort : Json.sortFields fields with
  | nil => rfl
  | cons f rest =>
    cases rest with
    | nil => exact absurd (Json.sortFields_eq_singleton_iff.mp hsort) (h f.1 f.2)
    | cons f' rest => rfl

theorem choice_eq_ok_iff {name : α → String} {choices : List α} (hinj : Function.Injective name)
    (hall : ∀ a, a ∈ choices) {a : α} :
    choice name choices v = .ok a ↔ Json.NamedBy name v a := by
  cases v with
  | str s =>
    rw [choice_str, named_eq_ok_iff hinj hall]
    constructor
    · rintro rfl
      exact .alone a
    · rintro ⟨⟩
      rfl
  | obj fields =>
    by_cases hsingle : ∃ key payload, Json.HasOnly fields key payload
    · obtain ⟨key, payload, hsingle⟩ := hsingle
      rw [Json.namedBy_obj_iff hsingle]
      by_cases hnull : payload = .null
      · subst hnull
        rw [choice_of_hasOnly_null hsingle, named_eq_ok_iff hinj hall, and_iff_left rfl]
      · rw [choice_of_hasOnly hsingle hnull]
        refine iff_of_false ?_ fun h => hnull h.2
        cases named name choices key <;> simp [bind, Except.bind, wrongType]
    · rw [not_exists] at hsingle
      rw [choice_not_single fun key payload h => hsingle key ⟨payload, h⟩]
      refine iff_of_false nofun ?_
      rintro (_ | ⟨_, h⟩)
      exact hsingle _ ⟨_, h⟩
  | _ => exact iff_of_false nofun nofun

/-! ### Records -/

variable {r : RecordShape Json σ} {slots : List (Slot Json σ)}

theorem record_obj (r : RecordShape Json σ) (fields : List (String × Json)) :
    record r (.obj fields) =
      r.ofEntries ((Json.sortFields fields).map fun f => (.text f.1, f.2)) := rfl

theorem record_eq_ok_iff (h : r.Laid slots) {x : σ} :
    record r v = .ok x ↔ v.IsRecord r.keys r.closed ∧
      ∀ slot ∈ slots, slot.Holds r.start x v (v.given? r.keys slot.key) := by
  cases v with
  | arr items => exact h.ofItems_eq_ok_iff items x
  | obj fields =>
    rw [record_obj, h.ofEntries_eq_ok_iff (Json.nodup_keys_sortFields fields),
      Json.forall_key_sortFields_iff]
    simp only [Json.lookup_sortFields]
    rfl
  | _ => exact iff_of_false nofun fun hrecord => hrecord.1

/-- The order of the fields does not matter, nor do those that a later one replaces. -/
theorem record_obj_congr {fields fields' : List (String × Json)}
    (h : Json.value? fields = Json.value? fields') :
    record r (.obj fields) = record r (.obj fields') := by
  rw [record_obj, record_obj, Json.sortFields_congr h]

/-- Where no field is required an object is refused for the least of the keys whose entry cannot be
read. -/
theorem record_obj_eq_error_iff (hpresence : ∀ f ∈ r.fields, f.presence ≠ .required)
    {fields : List (String × Json)} {e : DecodeError} :
    record r (.obj fields) = .error e ↔ ∃ key v, Json.value? fields key = some v ∧
      r.entry (.text key, v) = .error e ∧
      ∀ k w, Json.value? fields k = some w → k < key →
        ∃ change, r.entry (.text k, w) = .ok change := by
  have hmissing : ∀ given, r.missing? given = none := by
    intro given
    rw [RecordShape.missing?, List.find?_eq_none]
    intro f hf hneeded
    exact hpresence f hf (of_decide_eq_true hneeded).1
  have hread : record r (.obj fields) = .error e ↔
      (Json.sortFields fields).mapM (fun f => r.entry (.text f.1, f.2)) = .error e := by
    have hentries : ((Json.sortFields fields).map fun f => (Key.text f.1, f.2)).mapM r.entry =
        (Json.sortFields fields).mapM fun f => r.entry (.text f.1, f.2) := List.mapM_map
    rw [record_obj, RecordShape.ofEntries, hentries]
    cases (Json.sortFields fields).mapM fun f => r.entry (.text f.1, f.2) with
    | error e' => simp [bind, Except.bind]
    | ok changes => simp [bind, Except.bind, pure, Except.pure, hmissing]
  have hsorted := Json.pairwise_sortFields fields
  rw [hread, mapM_eq_error_iff]
  constructor
  · rintro ⟨before, f, after, hsplit, hbefore, hf⟩
    rw [hsplit, List.pairwise_append, List.pairwise_cons] at hsorted
    refine ⟨f.1, f.2, ?_, hf, fun k w hk hlt => ?_⟩
    · rw [← Json.mem_sortFields_iff, hsplit]
      simp
    · rw [← Json.mem_sortFields_iff, hsplit, List.mem_append, List.mem_cons] at hk
      rcases hk with hk | rfl | hk
      · exact hbefore _ hk
      · exact absurd hlt (String.lt_irrefl _)
      · exact absurd (String.lt_trans hlt (hsorted.2.1.1 _ hk)) (String.lt_irrefl _)
  · rintro ⟨key, v, hkey, hv, hsmaller⟩
    obtain ⟨before, after, hsplit⟩ := List.append_of_mem (Json.mem_sortFields_iff.mpr hkey)
    refine ⟨before, (key, v), after, hsplit, fun f hf => ?_, hv⟩
    rw [hsplit, List.pairwise_append] at hsorted
    refine hsmaller f.1 f.2 ?_ (hsorted.2.2 f hf (key, v) (List.mem_cons_self ..))
    rw [← Json.mem_sortFields_iff, hsplit]
    exact List.mem_append_left _ hf

end Decoder

end SelectQuery
