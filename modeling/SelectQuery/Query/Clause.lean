import SelectQuery.Query.Entry

/-!
# Clauses

The six clauses of a SELECT statement in the order in which they are written. A clause says of what
kind the entries of its list are, so whatever is done to all six lists alike is one definition here.
-/

namespace SelectQuery

inductive Clause where
  | select
  | source
  | filter
  | group
  | having
  | order
  deriving DecidableEq

namespace Clause

def keyword : Clause → String
  | select => "SELECT"
  | source => "FROM"
  | filter => "WHERE"
  | group => "GROUP BY"
  | having => "HAVING"
  | order => "ORDER BY"

def name : Clause → String
  | select => "Select"
  | source => "From"
  | filter => "Where"
  | group => "GroupBy"
  | having => "Having"
  | order => "OrderBy"

/-- All clauses, in the order of a statement. -/
def all : List Clause := [select, source, filter, group, having, order]

theorem mem_all (c : Clause) : c ∈ all := by
  cases c <;> decide

instance {p : Clause → Prop} [DecidablePred p] : Decidable (∀ c, p c) :=
  decidable_of_iff (∀ c ∈ all, p c) ⟨fun h c => h c c.mem_all, fun h c _ => h c⟩

/-- The name of a query's list for the clause. -/
def listName : Clause → String
  | select => "selections"
  | source => "tables"
  | filter => "where_formulas"
  | group => "group_bys"
  | having => "havings"
  | order => "order_bys"

/-- What the list of a clause holds. -/
abbrev Entry : Clause → Type
  | select => Item
  | source => Source
  | filter => Predicate
  | group => Item
  | having => Predicate
  | order => SortKey

/-- The text of an entry that the database is to evaluate: its formula, or the name of its table. -/
def formula : (c : Clause) → c.Entry → String
  | select, e => Item.formula e
  | source, e => Source.table e
  | filter, e => Predicate.formula e
  | group, e => Item.formula e
  | having, e => Predicate.formula e
  | order, e => (SortKey.item e).formula

def entryJson : (c : Clause) → c.Entry → Json
  | select, e => Item.toJson e
  | source, e => Source.toJson e
  | filter, e => Predicate.toJson e
  | group, e => Item.toJson e
  | having, e => Predicate.toJson e
  | order, e => SortKey.toJson e

def entryInspect : (c : Clause) → c.Entry → Inspect
  | select, e => Item.inspect e
  | source, e => Source.inspect e
  | filter, e => Predicate.inspect e
  | group, e => Item.inspect e
  | having, e => Predicate.inspect e
  | order, e => SortKey.inspect e

end Clause

end SelectQuery
