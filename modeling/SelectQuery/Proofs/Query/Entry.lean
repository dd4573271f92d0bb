import SelectQuery.Proofs.Decode.Record
import SelectQuery.Proofs.Json.Reading
import SelectQuery.Query.Clause
import SelectQuery.Query.Decode

/-!
# Entries and their written form

Every entry of a list is read back from the JSON it is written as (`Clause.entryOfJson_entryJson`),
and what it is written as holds no number.
-/

namespace SelectQuery

open RecordShape

/-! ### Read back -/

theorem optional_text_ofOption (o : Option String) :
    Decoder.optional Decoder.text (Json.ofOption .str o) = .ok o :=
  Decoder.optional_ofOption (fun _ => Json.noConfusion) Decoder.text_str o

theorem Item.layer_toJson (i : Item) : i.toJson.layer =
    .record [(.text "alias", .ofOption .str i.aliasName), (.text "formula", .str i.formula)] := by
  rfl

theorem Item.ofJson_toJson (i : Item) : ofJson i.toJson = .ok i := by
  have halias : shape.entry (.text "alias", .ofOption .str i.aliasName) =
      .ok fun j => { j with aliasName := i.aliasName } :=
    entry_eq_ok rfl (optional_text_ofOption i.aliasName) rfl
  exact Decoder.record_eq_ok i.layer_toJson (.cons halias (.cons rfl .nil)) rfl

theorem Source.layer_toJson (s : Source) : s.toJson.layer =
    .record [(.text "alias", .ofOption .str s.aliasName), (.text "table_name", .str s.table)] := by
  rfl

theorem Source.ofJson_toJson (s : Source) : ofJson s.toJson = .ok s := by
  have halias : shape.entry (.text "alias", .ofOption .str s.aliasName) =
      .ok fun t => { t with aliasName := s.aliasName } :=
    entry_eq_ok rfl (optional_text_ofOption s.aliasName) rfl
  exact Decoder.record_eq_ok s.layer_toJson (.cons halias (.cons rfl .nil)) rfl

theorem Connective.ofJson_toJson (c : Connective) : ofJson c.toJson = .ok c := by
  show Except.ok (ofToken c.token) = .ok c
  rw [ofToken_token]

theorem Predicate.layer_toJson (p : Predicate) : p.toJson.layer =
    .record [(.text "formula", .str p.formula), (.text "operator", p.connective.toJson)] := by
  rfl

theorem Predicate.ofJson_toJson (p : Predicate) : ofJson p.toJson = .ok p := by
  have hconnective : shape.entry (.text "operator", p.connective.toJson) =
      .ok fun r => { r with connective := p.connective } :=
    entry_eq_ok rfl p.connective.ofJson_toJson rfl
  exact Decoder.record_eq_ok p.layer_toJson (.cons rfl (.cons hconnective .nil)) rfl

theorem Direction.ofJson_toJson (d : Direction) : ofJson d.toJson = .ok d := by
  cases d <;> rfl

theorem SortKey.layer_toJson (k : SortKey) : k.toJson.layer =
    .record [(.text "direction", k.direction.toJson), (.text "selection", k.item.toJson)] := by
  rfl

theorem SortKey.ofJson_toJson (k : SortKey) : ofJson k.toJson = .ok k := by
  have hdirection : shape.entry (.text "direction", k.direction.toJson) =
      .ok fun l => { l with direction := k.direction } :=
    entry_eq_ok rfl k.direction.ofJson_toJson rfl
  have hitem : shape.entry (.text "selection", k.item.toJson) =
      .ok fun l => { l with item := k.item } :=
    entry_eq_ok rfl k.item.ofJson_toJson rfl
  exact Decoder.record_eq_ok k.layer_toJson (.cons hdirection (.cons hitem .nil)) rfl

/-! ### No numbers -/

theorem Json.numberless_ofOption_str (o : Option String) : (ofOption str o).Numberless := by
  cases o with
  | none => exact .null
  | some s => exact .str s

theorem Json.numberless_pair {k l : String} {v w : Json} (hv : v.Numberless) (hw : w.Numberless) :
    (obj [(k, v), (l, w)]).Numberless :=
  .obj (List.forall_mem_cons.mpr ⟨hv, List.forall_mem_singleton.mpr hw⟩)

theorem Item.numberless_toJson (i : Item) : i.toJson.Numberless :=
  Json.numberless_pair (.str i.formula) (Json.numberless_ofOption_str i.aliasName)

theorem Source.numberless_toJson (s : Source) : s.toJson.Numberless :=
  Json.numberless_pair (.str s.table) (Json.numberless_ofOption_str s.aliasName)

theorem Predicate.numberless_toJson (p : Predicate) : p.toJson.Numberless :=
  Json.numberless_pair (.str p.formula) (.str p.connective.token)

theorem SortKey.numberless_toJson (k : SortKey) : k.toJson.Numberless :=
  Json.numberless_pair k.item.numberless_toJson (.str k.direction.name)

/-! ### Entries of a clause -/

namespace Clause

/-- The decoder of the entries of a clause's list. -/
def entryOfJson : (c : Clause) → Decoder Json c.Entry
  | select => Item.ofJson
  | source => Source.ofJson
  | filter => Predicate.ofJson
  | group => Item.ofJson
  | having => Predicate.ofJson
  | order => SortKey.ofJson

theorem entryOfJson_entryJson (c : Clause) (e : c.Entry) :
    c.entryOfJson (c.entryJson e) = .ok e := by
  cases c with
  | select => exact Item.ofJson_toJson e
  | source => exact Source.ofJson_toJson e
  | filter => exact Predicate.ofJson_toJson e
  | group => exact Item.ofJson_toJson e
  | having => exact Predicate.ofJson_toJson e
  | order => exact SortKey.ofJson_toJson e

theorem numberless_entryJson (c : Clause) (e : c.Entry) : (c.entryJson e).Numberless := by
  cases c with
  | select => exact Item.numberless_toJson e
  | source => exact Source.numberless_toJson e
  | filter => exact Predicate.numberless_toJson e
  | group => exact Item.numberless_toJson e
  | having => exact Predicate.numberless_toJson e
  | order => exact SortKey.numberless_toJson e

end Clause

end SelectQuery
