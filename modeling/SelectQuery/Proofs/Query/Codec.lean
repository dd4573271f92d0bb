import SelectQuery.Proofs.Case.Grammar
import SelectQuery.Proofs.Decode.Codec
import SelectQuery.Proofs.Query.Entry
import SelectQuery.Proofs.Render.Format

/-!
# The codecs of entries and settings

For each type that a query or its settings are made of: which JSON values are read as it, and that
reading and writing fit together. Main statement: `leaves_canonical`.
-/

namespace SelectQuery

open Json

/-! ### Items and sources -/

namespace Item

/-- A formula and an alias. -/
def Form (v : Json) (i : Item) : Prop :=
  v.IsPair "formula" "alias" IsText (OrNull IsText) (some none) i.formula i.aliasName

def slots : List (Slot Json Item) := [
  ⟨String, "formula", .required, .text, (·.formula), fun s i => { i with formula := s }⟩,
  ⟨Option String, "alias", .optional, .optional .text, (·.aliasName),
    fun s i => { i with aliasName := s }⟩]

theorem laid : shape.Laid slots where
  fields_eq := rfl
  nodup := (by decide : ["formula", "alias"].Nodup)
  get_set := by simp [slots]
  get_set_other := by simp [slots]
  ext := by
    rintro ⟨⟩ ⟨⟩ h
    simpa [slots] using h

theorem takes : Takes Form ofJson := .pair laid rfl rfl (by decide) .text (.optional .text)

end Item

namespace Source

/-- The name of a table and an alias. -/
def Form (v : Json) (s : Source) : Prop :=
  v.IsPair "table_name" "alias" IsText (OrNull IsText) (some none) s.table s.aliasName

def slots : List (Slot Json Source) := [
  ⟨String, "table_name", .required, .text, (·.table), fun n s => { s with table := n }⟩,
  ⟨Option String, "alias", .optional, .optional .text, (·.aliasName),
    fun n s => { s with aliasName := n }⟩]

theorem laid : shape.Laid slots where
  fields_eq := rfl
  nodup := (by decide : ["table_name", "alias"].Nodup)
  get_set := by simp [slots]
  get_set_other := by simp [slots]
  ext := by
    rintro ⟨⟩ ⟨⟩ h
    simpa [slots] using h

theorem takes : Takes Form ofJson := .pair laid rfl rfl (by decide) .text (.optional .text)

end Source

/-! ### Predicates -/

namespace Connective

/-- The text of its token. -/
def Form (v : Json) (c : Connective) : Prop := v.IsText c.token

theorem takes : Takes Form ofJson where
  reads := by
    intro v c
    rw [ofJson, map_eq_ok_iff, Form, ← Decoder.text_eq_ok_iff]
    constructor
    · rintro ⟨s, hs, rfl⟩
      rwa [token_ofToken]
    · intro h
      exact ⟨c.token, h, ofToken_token c⟩
  same := by
    intro v w h
    rw [ofJson, ofJson, Takes.text.same v w h]

end Connective

namespace Predicate

/-- A formula and a connective. -/
def Form (v : Json) (p : Predicate) : Prop :=
  v.IsPair "formula" "operator" IsText Connective.Form none p.formula p.connective

def slots : List (Slot Json Predicate) := [
  ⟨String, "formula", .required, .text, (·.formula), fun s p => { p with formula := s }⟩,
  ⟨Connective, "operator", .required, Connective.ofJson, (·.connective),
    fun c p => { p with connective := c }⟩]

theorem laid : shape.Laid slots where
  fields_eq := rfl
  nodup := (by decide : ["formula", "operator"].Nodup)
  get_set := by simp [slots]
  get_set_other := by simp [slots]
  ext := by
    rintro ⟨⟩ ⟨⟩ h
    simpa [slots] using h

theorem takes : Takes Form ofJson := .pair laid rfl rfl (by decide) .text Connective.takes

end Predicate

/-! ### Choices -/

theorem Direction.takes : Takes (NamedBy Direction.name) ofJson :=
  .choice name_injective mem_all

theorem Join.name_injective : Function.Injective Join.name := by
  intro j k h
  cases j <;> cases k <;> first | rfl | exact absurd h (by decide)

theorem Join.mem_all (j : Join) : j ∈ all := by
  cases j <;> decide

theorem Join.takes : Takes (NamedBy Join.name) ofJson :=
  .choice name_injective mem_all

theorem Join.ofJson_toJson (j : Join) : ofJson j.toJson = .ok j := by
  cases j <;> rfl

theorem AliasStyle.takes : Takes (NamedBy AliasStyle.name) ofJson :=
  .choice name_injective mem_all

/-! ### Sort keys -/

namespace SortKey

/-- An item and a direction. -/
def Form (v : Json) (k : SortKey) : Prop :=
  v.IsPair "selection" "direction" Item.Form (NamedBy Direction.name) none k.item k.direction

def slots : List (Slot Json SortKey) := [
  ⟨Item, "selection", .required, Item.ofJson, (·.item), fun i k => { k with item := i }⟩,
  ⟨Direction, "direction", .required, Direction.ofJson, (·.direction),
    fun d k => { k with direction := d }⟩]

theorem laid : shape.Laid slots where
  fields_eq := rfl
  nodup := (by decide : ["selection", "direction"].Nodup)
  get_set := by simp [slots]
  get_set_other := by simp [slots]
  ext := by
    rintro ⟨⟩ ⟨⟩ h
    simpa [slots] using h

theorem takes : Takes Form ofJson := .pair laid rfl rfl (by decide) Item.takes Direction.takes

end SortKey

/-! ### Settings -/

theorem Settings.takes : Takes IsSettings ofJson where
  reads := fun _ _ => ofJson_eq_ok_iff
  same := by
    intro v w h
    refine Decoder.record_congr (laid.respects ?_) h.alike
    simp only [slots, List.forall_mem_cons]
    exact ⟨Takes.bool.same, Takes.text.same, AliasStyle.takes.same, Takes.bool.same,
      Takes.bool.same, List.forall_mem_nil _⟩

/-- Every type that queries and settings are made of is read from one form, whatever the order of
fields, and written so that it is told from all others. -/
structure LeavesCanonical : Prop where
  item : Canonical Item.Form Item.ofJson Item.toJson
  source : Canonical Source.Form Source.ofJson Source.toJson
  predicate : Canonical Predicate.Form Predicate.ofJson Predicate.toJson
  sortKey : Canonical SortKey.Form SortKey.ofJson SortKey.toJson
  connective : Canonical Connective.Form Connective.ofJson Connective.toJson
  direction : Canonical (NamedBy Direction.name) Direction.ofJson Direction.toJson
  join : Canonical (NamedBy Join.name) Join.ofJson Join.toJson
  aliasStyle : Canonical (NamedBy AliasStyle.name) AliasStyle.ofJson AliasStyle.toJson
  settings : Canonical IsSettings Settings.ofJson Settings.toJson

theorem leaves_canonical : LeavesCanonical where
  item := Item.takes.canonical Item.ofJson_toJson
  source := Source.takes.canonical Source.ofJson_toJson
  predicate := Predicate.takes.canonical Predicate.ofJson_toJson
  sortKey := SortKey.takes.canonical SortKey.ofJson_toJson
  connective := Connective.takes.canonical Connective.ofJson_toJson
  direction := Direction.takes.canonical Direction.ofJson_toJson
  join := Join.takes.canonical Join.ofJson_toJson
  aliasStyle := AliasStyle.takes.canonical AliasStyle.ofJson_toJson
  settings := Settings.takes.canonical Settings.ofJson_toJson

/-- A sort key as a list of an object and an object, and one with an empty alias as an object, in
either order of its fields. -/
theorem leaves_canonical_of_sort_keys :
    let v : Json :=
      .arr [.obj [("rest", .null), ("formula", .str "a")], .obj [("Descending", .null)]]
    let fields : List (String × Json) :=
      [("direction", .str "Descending"), ("selection", .arr [.str "a", .str ""])]
    let k : SortKey := ⟨⟨"a", none⟩, .descending⟩
    let l : SortKey := ⟨⟨"a", some ""⟩, .descending⟩
    SortKey.ofJson v = .ok k ∧ SortKey.ofJson (.obj fields) = .ok l ∧
    (fields.map (·.1)).Nodup ∧ fields.Perm fields.reverse ∧
    SortKey.ofJson (.obj fields.reverse) = .ok l ∧ ¬k.toJson.Same l.toJson ∧
    ∃ m, SortKey.ofJson k.toJson = .ok m ∧ m.toJson = k.toJson := by
  intro v fields k l
  have hv : SortKey.ofJson v = .ok k := rfl
  have hfields : SortKey.ofJson (.obj fields) = .ok l := rfl
  have hnodup : (fields.map (·.1)).Nodup := by decide
  have hperm : fields.Perm fields.reverse := (List.reverse_perm fields).symm
  have canonical := leaves_canonical.sortKey
  refine ⟨hv, hfields, hnodup, hperm, ?_, ?_, canonical.rewrite v k hv⟩
  · rw [← canonical.reordered fields _ hnodup hperm, hfields]
  · rw [← canonical.eq_iff v _ k l hv hfields]
    decide

end SelectQuery
