import SelectQuery.Proofs.Query.Entry
import SelectQuery.Query.Basic

/-!
# Queries and their JSON text

A query's JSON text is lossless: it parses, and what it parses to gives back the flag and the six
lists. So the texts tell two queries apart. Main statement: `json_text_lossless`.
-/

namespace SelectQuery

theorem Clause.entryJson_injective (c : Clause) : Function.Injective c.entryJson := by
  intro d e h
  have hd := c.entryOfJson_entryJson d
  rw [h, c.entryOfJson_entryJson] at hd
  exact (Except.ok.inj hd).symm

theorem Clause.mapM_entryOfJson (c : Clause) (es : List c.Entry) :
    (es.map c.entryJson).mapM c.entryOfJson = .ok es := by
  have hmap := mapM_map_eq_ok (h := id) c.entryOfJson_entryJson es
  rwa [List.map_id] at hmap

namespace Query

theorem numberless_toJson (q : Query) : q.toJson.Numberless := by
  refine .obj (List.forall_mem_cons.mpr ⟨.bool q.distinct, ?_⟩)
  rw [List.forall_mem_map]
  refine fun c _ => .arr ?_
  rw [List.forall_mem_map]
  exact fun e _ => c.numberless_entryJson e

theorem ofText?_text_toJson (q : Query) : Json.ofText? q.toJson.text = some q.toJson :=
  Json.ofText?_text q.numberless_toJson

theorem toJson_inj {q₁ q₂ : Query} : q₁.toJson = q₂.toJson ↔
    q₁.distinct = q₂.distinct ∧ ∀ c, q₁.entries c = q₂.entries c := by
  have hlists : ∀ c : Clause, (c.listName, Json.arr ((q₁.entries c).map c.entryJson)) =
      (c.listName, Json.arr ((q₂.entries c).map c.entryJson)) ↔ q₁.entries c = q₂.entries c := by
    intro c
    rw [Prod.mk.injEq, Json.arr.injEq, c.entryJson_injective.list_map.eq_iff]
    exact and_iff_right rfl
  rw [toJson, toJson, Json.obj.injEq, List.cons.injEq, Prod.mk.injEq, Json.bool.injEq,
    List.map_inj_left]
  simp only [hlists, Clause.mem_all, true_and, forall_const]

theorem text_toJson_inj {q₁ q₂ : Query} : q₁.toJson.text = q₂.toJson.text ↔
    q₁.distinct = q₂.distinct ∧ ∀ c, q₁.entries c = q₂.entries c := by
  rw [Json.text_inj q₁.numberless_toJson q₂.numberless_toJson, toJson_inj]

/-- The JSON text of a query is read as an object with the flag and one array for each list, in the
order of the clauses; the arrays decode to the lists as they are. Two queries have one text exactly
when they have one flag and the same lists. -/
theorem json_text_lossless :
    (∀ q : Query, ∃ arrays : Clause → List Json,
      Json.ofText? q.toJson.text = some (.obj [
        ("distinct", .bool q.distinct),
        ("selections", .arr (arrays .select)),
        ("tables", .arr (arrays .source)),
        ("where_formulas", .arr (arrays .filter)),
        ("group_bys", .arr (arrays .group)),
        ("havings", .arr (arrays .having)),
        ("order_bys", .arr (arrays .order))]) ∧
      (arrays .select).mapM Item.ofJson = .ok q.items ∧
      (arrays .source).mapM Source.ofJson = .ok q.sources ∧
      (arrays .filter).mapM Predicate.ofJson = .ok q.filters ∧
      (arrays .group).mapM Item.ofJson = .ok q.groups ∧
      (arrays .having).mapM Predicate.ofJson = .ok q.havings ∧
      (arrays .order).mapM SortKey.ofJson = .ok q.orders) ∧
    ∀ q₁ q₂ : Query, q₁.toJson.text = q₂.toJson.text ↔
      q₁.distinct = q₂.distinct ∧ ∀ c, q₁.entries c = q₂.entries c := by
  refine ⟨fun q => ?_, fun q₁ q₂ => text_toJson_inj⟩
  have hdecode : ∀ c : Clause, ((q.entries c).map c.entryJson).mapM c.entryOfJson =
      .ok (q.entries c) := fun c => c.mapM_entryOfJson (q.entries c)
  exact ⟨fun c => (q.entries c).map c.entryJson, q.ofText?_text_toJson, hdecode .select,
    hdecode .source, hdecode .filter, hdecode .group, hdecode .having, hdecode .order⟩

end Query

end SelectQuery
