import SelectQuery.Proofs.Decode.Record
import SelectQuery.Proofs.Json.Fields

/-!
# Fields and their places

A field's change touches one place of the record: looked at there it is what was read, and looked at
anywhere else the record is as before. So a record that was filled in holds, in each place, what was
read under the place's key, or what it held from the start; and since the places make up the record,
that says which record it is (`ofEntries_eq_ok_iff`, `ofItems_eq_ok_iff`).
-/

namespace SelectQuery

/-- A field that is read by `read` and has its place in the record. -/
structure Slot (ν σ : Type) where
  Value : Type
  key : String
  presence : Presence
  read : Decoder ν Value
  get : σ → Value
  set : Value → σ → σ

namespace Slot

variable {ν σ : Type}

def field (slot : Slot ν σ) : Field ν σ := .of slot.key slot.presence slot.read slot.set

/-- A record holds in this place what is read from what was given, or what `start` holds there. -/
def Filled (slot : Slot ν σ) (start x : σ) : Option ν → Prop
  | some v => slot.read v = .ok (slot.get x)
  | none => slot.get x = slot.get start

theorem get_eq_of_filled {slot : Slot ν σ} {start x y : σ} {given : Option ν}
    (hx : slot.Filled start x given) (hy : slot.Filled start y given) :
    slot.get x = slot.get y := by
  cases given with
  | none => exact Eq.trans hx (Eq.symm hy)
  | some v => exact Except.ok.inj (Eq.trans (Eq.symm hx) hy)

end Slot

namespace RecordShape

variable {ν σ : Type} {r : RecordShape ν σ} {slots : List (Slot ν σ)}

/-- Entries under these keys are read, and make these changes. -/
abbrev Reads (r : RecordShape ν σ) (fields : List (String × ν)) (changes : List (σ → σ)) : Prop :=
  List.Forall₂ (fun f change => r.entry (.text f.1, f.2) = .ok change) fields changes

theorem field?_eq_none {key : String} (hkey : key ∉ r.keys) : r.field? key = none := by
  rw [field?, List.find?_eq_none]
  intro f hf hmatch
  exact hkey (List.mem_map.mpr ⟨f, hf, by simpa using hmatch⟩)

theorem entry_unknown {key : String} (hkey : key ∉ r.keys) (v : ν) : r.entry (.text key, v) =
    if r.closed then .error (.unknownField key r.keys) else .ok id := by
  rw [entry, field?_eq_none hkey]

/-- The fields of a record have these places, which are independent and make up the record. -/
structure Laid (r : RecordShape ν σ) (slots : List (Slot ν σ)) : Prop where
  fields_eq : r.fields = slots.map Slot.field
  nodup : r.keys.Nodup
  get_set : ∀ slot ∈ slots, ∀ a x, slot.get (slot.set a x) = a
  get_set_other : ∀ slot ∈ slots, ∀ other ∈ slots, other.key ≠ slot.key →
    ∀ a x, other.get (slot.set a x) = other.get x
  ext : ∀ x y, (∀ slot ∈ slots, slot.get x = slot.get y) → x = y

namespace Laid

theorem keys_eq (h : r.Laid slots) : r.keys = slots.map (·.key) := by
  rw [keys, h.fields_eq, List.map_map]
  rfl

theorem eq_of_key_eq (h : r.Laid slots) {slot other : Slot ν σ} (hslot : slot ∈ slots)
    (hother : other ∈ slots) (hkey : other.key = slot.key) : other = slot :=
  List.inj_on_of_nodup_map (h.keys_eq ▸ h.nodup) hother hslot hkey

theorem field?_key (h : r.Laid slots) {slot : Slot ν σ} (hslot : slot ∈ slots) :
    r.field? slot.key = some slot.field := by
  rw [field?, h.fields_eq, List.find?_map]
  obtain ⟨found, hfound⟩ := Option.isSome_iff_exists.mp
    (List.find?_isSome (p := fun other : Slot ν σ => decide (other.key = slot.key)) |>.mpr
      ⟨slot, hslot, by simp⟩)
  have hsame : found = slot := h.eq_of_key_eq hslot (List.mem_of_find?_eq_some hfound)
    (by simpa using List.find?_some hfound)
  show (slots.find? fun other => decide (other.key = slot.key)).map Slot.field = some slot.field
  rw [hfound, hsame]
  rfl

/-! ### What one entry does -/

theorem entry_slot_eq_ok_iff (h : r.Laid slots) {slot : Slot ν σ} (hslot : slot ∈ slots) {v : ν}
    {change : σ → σ} :
    r.entry (.text slot.key, v) = .ok change ↔
      ∃ a, slot.read v = .ok a ∧ slot.set a = change := by
  have hentry : r.entry (.text slot.key, v) = slot.set <$> slot.read v := by
    rw [entry, h.field?_key hslot]
    rfl
  rw [hentry, map_eq_ok_iff]

/-- The entry under a place's key fills the place. -/
theorem read_of_entry_eq_ok (h : r.Laid slots) {slot : Slot ν σ} (hslot : slot ∈ slots) {v : ν}
    {change : σ → σ} (hentry : r.entry (.text slot.key, v) = .ok change) (x : σ) :
    slot.read v = .ok (slot.get (change x)) := by
  obtain ⟨a, hread, rfl⟩ := (h.entry_slot_eq_ok_iff hslot).mp hentry
  rw [hread, h.get_set slot hslot]

/-- Any other entry leaves the place as it is. -/
theorem get_of_entry_eq_ok (h : r.Laid slots) {slot : Slot ν σ} (hslot : slot ∈ slots)
    {key : String} (hkey : key ≠ slot.key) {v : ν} {change : σ → σ}
    (hentry : r.entry (.text key, v) = .ok change) (x : σ) :
    slot.get (change x) = slot.get x := by
  by_cases hknown : key ∈ r.keys
  · rw [h.keys_eq, List.mem_map] at hknown
    obtain ⟨other, hother, rfl⟩ := hknown
    obtain ⟨a, -, rfl⟩ := (h.entry_slot_eq_ok_iff hother).mp hentry
    exact h.get_set_other other hother slot hslot (Ne.symm hkey) a x
  · rw [entry_unknown hknown] at hentry
    split at hentry
    · cases hentry
    · obtain rfl : id = change := Except.ok.inj hentry
      rfl

/-! ### What all entries do -/

/-- Entries under distinct keys, each of which was read. -/
theorem filled_foldl (h : r.Laid slots) {slot : Slot ν σ} (hslot : slot ∈ slots)
    {fields : List (String × ν)} {changes : List (σ → σ)} (hnodup : (fields.map (·.1)).Nodup)
    (hread : r.Reads fields changes)
    (start : σ) :
    slot.Filled start (changes.foldl (fun x change => change x) start)
      (fields.lookup slot.key) := by
  induction hread generalizing start with
  | nil => rfl
  | @cons f change fields changes hf hrest ih =>
    obtain ⟨hfirst, hnodup⟩ := List.nodup_cons.mp hnodup
    have hfilled := ih hnodup (change start)
    rw [List.foldl_cons, lookup_cons_eq_ite]
    by_cases hkey : slot.key = f.1
    · rw [if_pos hkey]
      rw [hkey, lookup_eq_none_iff_notMem.mpr hfirst] at hfilled
      have hget := h.read_of_entry_eq_ok hslot (hkey ▸ hf) start
      rw [← show slot.get _ = slot.get (change start) from hfilled] at hget
      exact hget
    · rw [if_neg hkey]
      cases hlookup : fields.lookup slot.key with
      | some v =>
        rw [hlookup] at hfilled
        exact hfilled
      | none =>
        rw [hlookup] at hfilled
        exact hfilled.trans (h.get_of_entry_eq_ok hslot (Ne.symm hkey) hf start)

/-- Every entry is read when what it gives fits a record and no key is refused. -/
theorem exists_changes (h : r.Laid slots) {fields : List (String × ν)} {start x : σ}
    (hnodup : (fields.map (·.1)).Nodup) (hknown : r.closed = true → ∀ f ∈ fields, f.1 ∈ r.keys)
    (hfilled : ∀ slot ∈ slots, slot.Filled start x (fields.lookup slot.key)) :
    ∃ changes, r.Reads fields changes := by
  have hentry : ∀ f ∈ fields, ∃ change, r.entry (.text f.1, f.2) = .ok change := by
    intro f hf
    by_cases hmem : f.1 ∈ r.keys
    · rw [h.keys_eq, List.mem_map] at hmem
      obtain ⟨slot, hslot, hkey⟩ := hmem
      have hread := hfilled slot hslot
      rw [hkey, (lookup_eq_some_iff_mem hnodup).mpr hf] at hread
      refine ⟨slot.set (slot.get x), ?_⟩
      rw [← hkey]
      exact (h.entry_slot_eq_ok_iff hslot).mpr ⟨slot.get x, hread, rfl⟩
    · refine ⟨id, ?_⟩
      rw [entry_unknown hmem, if_neg fun hclosed => hmem (hknown hclosed f hf)]
  obtain ⟨changes, hchanges⟩ := exists_mapM_eq_ok hentry
  exact ⟨changes, mapM_eq_ok_iff.mp hchanges⟩

theorem eq_of_filled (h : r.Laid slots) {fields : List (String × ν)} {start x y : σ}
    (hx : ∀ slot ∈ slots, slot.Filled start x (fields.lookup slot.key))
    (hy : ∀ slot ∈ slots, slot.Filled start y (fields.lookup slot.key)) : x = y :=
  h.ext x y fun slot hslot => Slot.get_eq_of_filled (hx slot hslot) (hy slot hslot)

/-- The changes of the entries make that record of the start which holds what they give. -/
theorem fill_eq_iff (h : r.Laid slots) {fields : List (String × ν)} {changes : List (σ → σ)}
    (hnodup : (fields.map (·.1)).Nodup)
    (hread : r.Reads fields changes)
    (x : σ) :
    r.fill changes = x ↔ ∀ slot ∈ slots, slot.Filled r.start x (fields.lookup slot.key) := by
  have hfilled : ∀ slot ∈ slots,
      slot.Filled r.start (r.fill changes) (fields.lookup slot.key) := fun slot hslot =>
    h.filled_foldl hslot hnodup hread r.start
  constructor
  · rintro rfl
    exact hfilled
  · intro hx
    exact h.eq_of_filled hfilled hx

/-! ### Records by key and by position -/

theorem known_of_forall₂ {fields : List (String × ν)} {changes : List (σ → σ)}
    (hread : r.Reads fields changes)
    (hclosed : r.closed = true) : ∀ f ∈ fields, f.1 ∈ r.keys := by
  have hboth : List.Forall₂
      (fun f change => f.1 ∈ r.keys ∧ r.entry (.text f.1, f.2) = .ok change) fields changes := by
    refine hread.imp fun f change hentry => ⟨?_, hentry⟩
    by_contra hunknown
    rw [entry_unknown hunknown, if_pos hclosed] at hentry
    cases hentry
  exact ((List.forall₂_and_left _ _).mp hboth).1

theorem missing?_eq_none_iff (h : r.Laid slots) (fields : List (String × ν)) :
    r.missing? ((fields.map fun f => (Key.text f.1, f.2)).map (·.1)) = none ↔
      ∀ slot ∈ slots, slot.presence = .required → fields.lookup slot.key ≠ none := by
  have hmem : ∀ key, Key.text key ∈ (fields.map fun f => (Key.text f.1, f.2)).map (·.1) ↔
      fields.lookup key ≠ none := by
    intro key
    rw [Ne, lookup_eq_none_iff_notMem, not_not, List.map_map, List.mem_map, List.mem_map]
    simp
  rw [missing?, List.find?_eq_none, h.fields_eq, List.forall_mem_map]
  refine forall₂_congr fun slot _ => ?_
  rw [decide_eq_true_iff, hmem, not_and, not_not]
  rfl

theorem ofEntries_eq_ok_iff (h : r.Laid slots) {fields : List (String × ν)}
    (hnodup : (fields.map (·.1)).Nodup) (x : σ) :
    r.ofEntries (fields.map fun f => (.text f.1, f.2)) = .ok x ↔
      (r.closed = true → ∀ f ∈ fields, f.1 ∈ r.keys) ∧
      ∀ slot ∈ slots, slot.Filled r.start x (fields.lookup slot.key) ∧
        (slot.presence = .required → fields.lookup slot.key ≠ none) := by
  rw [forall₂_and, ← h.missing?_eq_none_iff]
  constructor
  · intro hread
    rw [ofEntries] at hread
    cases hentries : (fields.map fun f => (Key.text f.1, f.2)).mapM r.entry with
    | error e =>
      rw [hentries] at hread
      cases hread
    | ok changes =>
      rw [hentries] at hread
      rw [mapM_eq_ok_iff, List.forall₂_map_left_iff] at hentries
      cases hmissing : r.missing? ((fields.map fun f => (Key.text f.1, f.2)).map (·.1)) with
      | some f =>
        simp only [bind, Except.bind, hmissing] at hread
        cases hread
      | none =>
        simp only [bind, Except.bind, hmissing] at hread
        exact ⟨known_of_forall₂ hentries,
          (h.fill_eq_iff hnodup hentries x).mp (Except.ok.inj hread), rfl⟩
  · rintro ⟨hknown, hfilled, hmissing⟩
    obtain ⟨changes, hchanges⟩ := h.exists_changes hnodup hknown hfilled
    rw [← (h.fill_eq_iff hnodup hchanges x).mpr hfilled]
    exact ofEntries_eq_ok (List.forall₂_map_left_iff.mpr hchanges) hmissing

end Laid

theorem elements_cons_eq_ok_iff {f : Field ν σ} {fs : List (Field ν σ)} {v : ν} {vs : List ν}
    {n : Nat} {changes : List (σ → σ)} :
    r.elements (f :: fs) (v :: vs) n = .ok changes ↔
      ∃ change rest, f.put v = .ok change ∧ r.elements fs vs (n + 1) = .ok rest ∧
        change :: rest = changes := by
  rw [elements]
  cases f.put v with
  | error e => simp [bind, Except.bind]
  | ok change =>
    cases r.elements fs vs (n + 1) with
    | error e => simp [bind, Except.bind]
    | ok rest => simp [bind, Except.bind, pure, Except.pure]

/-- The elements of a list are read as entries under the keys of the fields in their order. -/
theorem elements_eq_ok_iff {fs : List (Field ν σ)} (hfs : ∀ f ∈ fs, r.field? f.key = some f)
    (hnodup : (fs.map (·.key)).Nodup) (items : List ν) (n : Nat) (changes : List (σ → σ)) :
    r.elements fs items n = .ok changes ↔
      items.length ≤ fs.length ∧
      (∀ f ∈ fs, f.presence ≠ .defaulted → ((fs.map (·.key)).zip items).lookup f.key ≠ none) ∧
      r.Reads ((fs.map (·.key)).zip items) changes := by
  induction fs generalizing items n changes with
  | nil =>
    cases items with
    | nil => cases changes <;> simp [elements]
    | cons v vs => simp [elements]
  | cons f fs ih =>
    obtain ⟨hf, hfs⟩ := List.forall_mem_cons.mp hfs
    obtain ⟨hfirst, hnodup⟩ := List.nodup_cons.mp hnodup
    cases items with
    | nil =>
      have hrest := ih hfs hnodup [] n changes
      rw [elements]
      simp only [List.zip_nil_right, List.length_nil, Nat.zero_le, true_and, List.lookup_nil, ne_eq,
        not_true_eq_false, imp_false, not_not, List.forall_mem_cons] at hrest ⊢
      split
      · rename_i hdefaulted
        rw [hrest, and_iff_right hdefaulted]
      · rename_i hneeded
        simp [hneeded]
    | cons v vs =>
      have hentry : r.entry (.text f.key, v) = f.put v := by rw [entry, hf]
      -- What is given for the other fields comes from the other elements.
      have hneeded : (∀ g ∈ f :: fs, g.presence ≠ .defaulted →
            ((f.key, v) :: (fs.map (·.key)).zip vs).lookup g.key ≠ none) ↔
          ∀ g ∈ fs, g.presence ≠ .defaulted → ((fs.map (·.key)).zip vs).lookup g.key ≠ none := by
        rw [List.forall_mem_cons, and_iff_right (by simp [lookup_cons_eq_ite])]
        refine forall₂_congr fun g hg => ?_
        have hne : g.key ≠ f.key := fun heq => hfirst (List.mem_map.mpr ⟨g, hg, heq⟩)
        rw [lookup_cons_eq_ite, if_neg hne]
      rw [elements_cons_eq_ok_iff, List.map_cons, List.zip_cons_cons, List.length_cons,
        List.length_cons, Nat.add_le_add_iff_right, hneeded]
      constructor
      · rintro ⟨change, rest, hput, helements, rfl⟩
        obtain ⟨hlength, hdefaulted, hread⟩ := (ih hfs hnodup vs (n + 1) rest).mp helements
        exact ⟨hlength, hdefaulted, .cons (hentry.trans hput) hread⟩
      · rintro ⟨hlength, hdefaulted, hread⟩
        obtain ⟨change, rest, hchange, hrest, rfl⟩ := List.forall₂_cons_left_iff.mp hread
        exact ⟨change, rest, hentry.symm.trans hchange,
          (ih hfs hnodup vs (n + 1) rest).mpr ⟨hlength, hdefaulted, hrest⟩, rfl⟩

theorem Laid.ofItems_eq_ok_iff (h : r.Laid slots) (items : List ν) (x : σ) :
    r.ofItems items = .ok x ↔
      items.length ≤ r.keys.length ∧
      ∀ slot ∈ slots, slot.Filled r.start x ((r.keys.zip items).lookup slot.key) ∧
        (slot.presence ≠ .defaulted → (r.keys.zip items).lookup slot.key ≠ none) := by
  have hfields : ∀ f ∈ r.fields, r.field? f.key = some f := by
    rw [h.fields_eq, List.forall_mem_map]
    exact fun slot hslot => h.field?_key hslot
  have hneeded : (∀ f ∈ r.fields, f.presence ≠ .defaulted →
        (r.keys.zip items).lookup f.key ≠ none) ↔
      ∀ slot ∈ slots, slot.presence ≠ .defaulted → (r.keys.zip items).lookup slot.key ≠ none := by
    rw [h.fields_eq, List.forall_mem_map]
    rfl
  have hzip : ((r.keys.zip items).map (·.1)).Nodup := by
    rw [List.zip_eq_zip_take_min, List.map_fst_zip (by simp)]
    exact h.nodup.sublist (List.take_sublist _ _)
  have helements := elements_eq_ok_iff hfields h.nodup items 0
  rw [ofItems, forall₂_and, ← hneeded]
  constructor
  · intro hread
    cases hchanges : r.elements r.fields items 0 with
    | error e =>
      rw [hchanges] at hread
      cases hread
    | ok changes =>
      rw [hchanges] at hread
      obtain ⟨hlength, hdefaulted, hforall⟩ := (helements changes).mp hchanges
      refine ⟨?_, (h.fill_eq_iff hzip hforall x).mp (Except.ok.inj hread), hdefaulted⟩
      rwa [keys, List.length_map]
  · rintro ⟨hlength, hfilled, hdefaulted⟩
    obtain ⟨changes, hforall⟩ := h.exists_changes hzip
      (fun _ f hf => (List.of_mem_zip hf).1) hfilled
    rw [keys, List.length_map] at hlength
    rw [(helements changes).mpr ⟨hlength, hdefaulted, hforall⟩,
      ← (h.fill_eq_iff hzip hforall x).mpr hfilled]
    rfl

end RecordShape

end SelectQuery
