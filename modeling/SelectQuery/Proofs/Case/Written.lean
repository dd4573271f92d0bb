import SelectQuery.Case.Basic
import SelectQuery.Proofs.Decode.Record

/-!
# Cases written down

Outlines and cases have a written form from which they are read back (`Outline.decode_toJson`,
`Case.ofJson_toJson`), and every query has an outline that says all of it (`Query.query_outline`).
-/

namespace SelectQuery

/-! ### The outline of a query -/

/-- The query with every entry in full. -/
def Query.outline (q : Query) : Outline where
  distinct := some q.distinct
  items := q.items.map fun i => .full i.formula i.aliasName
  sources := q.sources.map fun t => .full t.table t.aliasName
  filters := q.filters.map fun p => .full p.formula (some p.connective.token)
  groups := q.groups.map fun i => .full i.formula i.aliasName
  havings := q.havings.map fun p => .full p.formula (some p.connective.token)
  orders := q.orders.map fun k => ⟨k.item.formula, k.item.aliasName, some k.direction⟩

theorem Query.query_outline (q : Query) : q.outline.query = q := by
  have hpredicates : ∀ ps : List Predicate,
      (ps.map fun p => PredicateOutline.full p.formula (some p.connective.token)).map
        PredicateOutline.predicate = ps := by
    intro ps
    rw [List.map_map]
    refine (List.map_congr_left fun p _ => ?_).trans (List.map_id ps)
    show Predicate.mk p.formula (Connective.ofToken p.connective.token) = p
    rw [Connective.ofToken_token]
  have hitems : ∀ is : List Item, (is.map fun i => ItemOutline.full i.formula i.aliasName).map
      ItemOutline.item = is := fun is => List.map_map.trans (List.map_id is)
  have hsources : (q.sources.map fun t => ItemOutline.full t.table t.aliasName).map
      ItemOutline.source = q.sources := List.map_map.trans (List.map_id q.sources)
  have horders : (q.orders.map fun k =>
      SortOutline.mk k.item.formula k.item.aliasName (some k.direction)).map SortOutline.key =
      q.orders := List.map_map.trans (List.map_id q.orders)
  simp only [Outline.query, outline, hitems, hsources, hpredicates, horders, Option.getD_some]

/-! ### As JSON -/

def ItemOutline.toJson : ItemOutline → Json
  | .bare f => .str f
  | .full f a => .obj [("formula", .str f), ("alias", .ofOption .str a)]

def PredicateOutline.toJson : PredicateOutline → Json
  | .bare f => .str f
  | .full f token => .obj [("formula", .str f), ("op", .ofOption .str token)]

def SortOutline.toJson (o : SortOutline) : Json :=
  .obj [("formula", .str o.formula), ("alias", .ofOption .str o.aliasName),
    ("direction", .ofOption Direction.toJson o.direction)]

def Outline.toJson (o : Outline) : Json :=
  .obj [
    ("distinct", .ofOption .bool o.distinct),
    ("select", .arr (o.items.map ItemOutline.toJson)),
    ("from", .arr (o.sources.map ItemOutline.toJson)),
    ("where", .arr (o.filters.map PredicateOutline.toJson)),
    ("group_by", .arr (o.groups.map ItemOutline.toJson)),
    ("having", .arr (o.havings.map PredicateOutline.toJson)),
    ("order_by", .arr (o.orders.map SortOutline.toJson))]

/-- A case with the keys of what it does not give left out. -/
def Case.toJson (c : Case) : Json :=
  .obj ([("description", Json.str c.description)] ++
    c.payload.toList.map (fun v => ("config", v)) ++
    [("model", c.outline.toJson)] ++
    c.expected.toList.map (fun s => ("expected", Json.str s)) ++
    c.error.toList.map (fun s => ("error", Json.str s)))

/-! ### Read back -/

open Decoder RecordShape

theorem ItemOutline.decode_toJson (o : ItemOutline) : decode o.toJson = .ok o := by
  cases o with
  | bare f => rfl
  | full f a => cases a <;> rfl

theorem PredicateOutline.decode_toJson (o : PredicateOutline) : decode o.toJson = .ok o := by
  cases o with
  | bare f => rfl
  | full f token => cases token <;> rfl

theorem Direction.choice_toJson (d : Direction) : Decoder.choice name all d.toJson = .ok d := by
  cases d <;> rfl

theorem SortOutline.decode_toJson (o : SortOutline) : decode o.toJson = .ok o := by
  have hlayer : o.toJson.layer = .record [
      (.text "alias", .ofOption .str o.aliasName),
      (.text "direction", .ofOption Direction.toJson o.direction),
      (.text "formula", .str o.formula)] := rfl
  have halias : optional Decoder.text (Json.ofOption .str o.aliasName) = .ok o.aliasName :=
    optional_ofOption nofun text_str _
  have hdirection : optional (.choice Direction.name Direction.all)
      (Json.ofOption Direction.toJson o.direction) = .ok o.direction :=
    optional_ofOption nofun Direction.choice_toJson _
  exact record_eq_ok (r := shape) hlayer
    (.cons (entry_eq_ok rfl halias rfl)
      (.cons (entry_eq_ok rfl hdirection rfl) (.cons rfl .nil))) rfl

theorem Outline.decode_toJson (o : Outline) : decode o.toJson = .ok o := by
  have hlayer : o.toJson.layer = .record [
      (.text "distinct", .ofOption .bool o.distinct),
      (.text "from", .arr (o.sources.map ItemOutline.toJson)),
      (.text "group_by", .arr (o.groups.map ItemOutline.toJson)),
      (.text "having", .arr (o.havings.map PredicateOutline.toJson)),
      (.text "order_by", .arr (o.orders.map SortOutline.toJson)),
      (.text "select", .arr (o.items.map ItemOutline.toJson)),
      (.text "where", .arr (o.filters.map PredicateOutline.toJson))] := rfl
  have hdistinct : optional Decoder.bool (Json.ofOption .bool o.distinct) = .ok o.distinct :=
    optional_ofOption (by simp) bool_bool _
  have hitems := listOf_toJson ItemOutline.decode_toJson
  have hpredicates := listOf_toJson PredicateOutline.decode_toJson
  have horders := listOf_toJson SortOutline.decode_toJson
  exact record_eq_ok (r := shape) hlayer
    (.cons (entry_eq_ok rfl hdistinct rfl) (.cons (entry_eq_ok rfl (hitems o.sources) rfl)
      (.cons (entry_eq_ok rfl (hitems o.groups) rfl)
      (.cons (entry_eq_ok rfl (hpredicates o.havings) rfl)
      (.cons (entry_eq_ok rfl (horders o.orders) rfl) (.cons (entry_eq_ok rfl (hitems o.items) rfl)
      (.cons (entry_eq_ok rfl (hpredicates o.filters) rfl) .nil))))))) rfl

theorem Case.layer_toJson (c : Case) : c.toJson.layer = .record (
    c.payload.toList.map (fun v => (Key.text "config", v)) ++
    [(Key.text "description", Json.str c.description)] ++
    c.error.toList.map (fun s => (Key.text "error", Json.str s)) ++
    c.expected.toList.map (fun s => (Key.text "expected", Json.str s)) ++
    [(Key.text "model", c.outline.toJson)]) := by
  obtain ⟨description, payload, outline, expected, error⟩ := c
  cases payload <;> cases expected <;> cases error <;> rfl

theorem Case.ofJson_toJson {c : Case} (h : c.payload ≠ some .null) : ofJson c.toJson = .ok c := by
  -- A null is read as no payload at all.
  have hpayload : ∀ v ∈ c.payload, optional (fun v => .ok v) v = .ok (some v) := by
    intro v hv
    refine optional_of_ne_null (fun hnull => h ?_) rfl
    rw [hv, hnull]
  have htext : ∀ s : String, optional Decoder.text (Json.str s) = .ok (some s) := fun s =>
    optional_of_ne_null nofun (text_str s)
  have hentries : List.Forall₂ (fun e change => (shape .ok).entry e = .ok change)
      (c.payload.toList.map (fun v => (Key.text "config", v)) ++
        [(Key.text "description", Json.str c.description)] ++
        c.error.toList.map (fun s => (Key.text "error", Json.str s)) ++
        c.expected.toList.map (fun s => (Key.text "expected", Json.str s)) ++
        [(Key.text "model", c.outline.toJson)])
      (c.payload.toList.map (fun v t => { t with payload := some v }) ++
        [fun t => { t with description := c.description }] ++
        c.error.toList.map (fun s t => { t with error := some s }) ++
        c.expected.toList.map (fun s t => { t with expected := some s }) ++
        [fun t => { t with outline := c.outline }]) := by
    refine List.rel_append (List.rel_append (List.rel_append (List.rel_append ?_ ?_) ?_) ?_) ?_
    · exact forall₂_toList fun v hv => entry_eq_ok rfl (hpayload v hv) rfl
    · exact .cons (entry_eq_ok rfl (text_str c.description) rfl) .nil
    · exact forall₂_toList fun s _ => entry_eq_ok rfl (htext s) rfl
    · exact forall₂_toList fun s _ => entry_eq_ok rfl (htext s) rfl
    · exact .cons (entry_eq_ok rfl c.outline.decode_toJson rfl) .nil
  have hread := record_eq_ok c.layer_toJson hentries
  -- The changes give back the case once it is known which keys there are.
  obtain ⟨description, payload, outline, expected, error⟩ := c
  cases payload <;> cases expected <;> cases error <;> exact hread rfl

end SelectQuery
