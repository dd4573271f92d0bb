import SelectQuery.Query.Clause

/-!
# Queries

A query is a DISTINCT flag and one list of entries for each clause. Entries are only ever appended:
nothing sorts, merges, checks or removes them, so the order of a list is the order in which its
entries came.
-/

namespace SelectQuery

structure Query where
  distinct : Bool := true
  items : List Item := []
  sources : List Source := []
  filters : List Predicate := []
  groups : List Item := []
  havings : List Predicate := []
  orders : List SortKey := []
  deriving DecidableEq

namespace Query

/-- The query with nothing in it, DISTINCT. -/
def empty : Query := {}

/-- The list of a clause. -/
def entries (q : Query) : (c : Clause) → List c.Entry
  | .select => q.items
  | .source => q.sources
  | .filter => q.filters
  | .group => q.groups
  | .having => q.havings
  | .order => q.orders

/-- The query with one more entry at the end of a clause's list. -/
def append (q : Query) : (c : Clause) → c.Entry → Query
  | .select, e => { q with items := q.items ++ [e] }
  | .source, e => { q with sources := q.sources ++ [e] }
  | .filter, e => { q with filters := q.filters ++ [e] }
  | .group, e => { q with groups := q.groups ++ [e] }
  | .having, e => { q with havings := q.havings ++ [e] }
  | .order, e => { q with orders := q.orders ++ [e] }

def setDistinct (q : Query) (distinct : Bool) : Query := { q with distinct }

/-- Whether every list is empty; the flag does not count. -/
def isEmpty (q : Query) : Bool := Clause.all.all fun c => (q.entries c).isEmpty

/-- The formulas of a clause's list, in order. -/
def formulas (q : Query) (c : Clause) : List String := (q.entries c).map c.formula

@[simp] theorem entries_append_self (q : Query) (c : Clause) (e : c.Entry) :
    (q.append c e).entries c = q.entries c ++ [e] := by
  cases c <;> rfl

theorem entries_append_of_ne (q : Query) {c d : Clause} (h : d ≠ c) (e : c.Entry) :
    (q.append c e).entries d = q.entries d := by
  cases c <;> cases d <;> simp_all [append, entries]

@[simp] theorem distinct_append (q : Query) (c : Clause) (e : c.Entry) :
    (q.append c e).distinct = q.distinct := by
  cases c <;> rfl

theorem isEmpty_eq_true_iff (q : Query) : q.isEmpty = true ↔ ∀ c, q.entries c = [] := by
  simp [isEmpty, Clause.mem_all]

theorem ext_entries {q₁ q₂ : Query} (hdistinct : q₁.distinct = q₂.distinct)
    (hentries : ∀ c, q₁.entries c = q₂.entries c) : q₁ = q₂ :=
  Query.mk.injEq .. |>.mpr ⟨hdistinct, hentries .select, hentries .source, hentries .filter,
    hentries .group, hentries .having, hentries .order⟩

/-! ### As JSON and inspected -/

def toJson (q : Query) : Json :=
  .obj (("distinct", .bool q.distinct) ::
    Clause.all.map fun c => (c.listName, .arr ((q.entries c).map c.entryJson)))

def inspect (q : Query) : Inspect :=
  .record "SqlQueryModel" (("distinct", .bool q.distinct) ::
    Clause.all.map fun c => (c.listName, .list ((q.entries c).map c.entryInspect)))

end Query

end SelectQuery
