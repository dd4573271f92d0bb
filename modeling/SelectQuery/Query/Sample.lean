import SelectQuery.Query.Basic

/-!
# Sample queries

A few queries that show the parts of a statement, and a wide one to measure with.
-/

namespace SelectQuery

inductive Sample where
  | singleTable
  | revenueByRegion
  | mixedConnectives
  | wide (columns : Nat)

namespace Sample

/-- The name of a column of the wide query, with its number. -/
private def column (i : Nat) : String := "t.col_" ++ toString i

def query : Sample → Query
  | singleTable => {
      items := [⟨"t.id", some "id"⟩]
      sources := [⟨"t1", some "t"⟩]
      filters := [.of "t.active = 1" none]
      orders := [⟨⟨"t.id", some "id"⟩, .ascending⟩] }
  | revenueByRegion => {
      distinct := false
      items := [⟨"c.region", some "region"⟩, ⟨"SUM(o.total)", some "revenue"⟩]
      sources := [⟨"orders", some "o"⟩, ⟨"customers", some "c"⟩]
      filters := [.of "o.customer_id = c.id" none, .of "o.status = 'closed'" (some .and)]
      groups := [⟨"c.region", none⟩]
      havings := [.of "SUM(o.total) > 1000" none]
      orders := [⟨⟨"SUM(o.total)", some "revenue"⟩, .descending⟩] }
  | mixedConnectives => {
      items := [⟨"p.name", none⟩]
      sources := [⟨"products", some "p"⟩]
      filters := [
        .of "p.price > 10" none, .of "p.featured = 1" (some .or),
        .of "p.discontinued = 1" (some (.ofToken "AND NOT"))] }
  | wide columns => {
      items := (List.range columns).map fun i => ⟨column i, some ("c" ++ toString i)⟩
      sources := [⟨"wide_table", some "t"⟩]
      filters := (List.range columns).map fun i => .of (column i ++ " IS NOT NULL") none
      groups := (List.range columns).map fun i => ⟨column i, none⟩
      orders := [⟨⟨column 0, none⟩, .ascending⟩] }

end Sample

end SelectQuery
