import SelectQuery.Query.Clause

/-!
# Clause keywords in a text

Which clause keywords a text contains, in the order of their first places.
-/

namespace SelectQuery

/-- The place of the first occurrence of a word in a text. -/
def firstPlace? (word : List Char) : List Char → Option Nat
  | [] => if word.isEmpty then some 0 else none
  | c :: cs => if word.isPrefixOf (c :: cs) then some 0 else (firstPlace? word cs).map (· + 1)

/-- The clauses whose keywords occur in a text, by the first place of each. -/
def keywordClauses (sql : String) : List Clause :=
  let found := Clause.all.filterMap fun c => (firstPlace? c.keyword.toList sql.toList).map (·, c)
  (found.mergeSort fun a b => a.1 ≤ b.1).map (·.2)

end SelectQuery
