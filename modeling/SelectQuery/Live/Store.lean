import SelectQuery.Query.Basic

/-!
# Live views

A store keeps every query that was ever put into it, so that what is read through a view is the list
as it is at that moment, whatever name the query had or has lost. A view cannot change anything; a
snapshot is a copy and stays as it was.
-/

namespace SelectQuery

/-- Queries by the order in which they were put in; none is ever taken out. -/
structure Store where
  queries : List Query

/-- A list of a query of the store, by the query's number. -/
structure View where
  query : Nat
  clause : Clause
  deriving DecidableEq

namespace Store

def empty : Store := ⟨[]⟩

/-- A number that has not been given is that of an empty query. -/
def get (s : Store) (n : Nat) : Query := (s.queries[n]?).getD .empty

/-- Puts a query in, under the next number. -/
def add (s : Store) (q : Query) : Store × Nat := (⟨s.queries ++ [q]⟩, s.queries.length)

def modify (s : Store) (n : Nat) (f : Query → Query) : Store := ⟨s.queries.modify n f⟩

@[simp] theorem get_add (s : Store) (q : Query) : (s.add q).1.get (s.add q).2 = q := by
  simp [add, get]

theorem get_add_of_lt (s : Store) (q : Query) {n : Nat} (h : n < s.queries.length) :
    (s.add q).1.get n = s.get n := by
  simp [add, get, List.getElem?_append_left h]

theorem get_modify (s : Store) (f : Query → Query) {n : Nat} (h : n < s.queries.length) :
    (s.modify n f).get n = f (s.get n) := by
  simp [modify, get, h]

theorem get_modify_of_ne (s : Store) (f : Query → Query) {m n : Nat} (h : m ≠ n) :
    (s.modify n f).get m = s.get m := by
  simp [modify, get, Ne.symm h]

end Store

namespace View

/-- The entries as they are right now. -/
def read (v : View) (s : Store) : List v.clause.Entry := (s.get v.query).entries v.clause

end View

/-- The entries that a list once had, or those of them that have not been taken yet. -/
structure Snapshot where
  clause : Clause
  entries : List clause.Entry

/-- A copy of what a view reads right now. -/
def View.snapshot (v : View) (s : Store) : Snapshot := ⟨v.clause, v.read s⟩

namespace Snapshot

def toJson (s : Snapshot) : Json := .arr (s.entries.map s.clause.entryJson)

def inspect (s : Snapshot) : Inspect := .list (s.entries.map s.clause.entryInspect)

/-- The entry at a place, with the clause that it belongs to. -/
def at? (s : Snapshot) (i : Nat) : Option (Sigma Clause.Entry) :=
  s.entries[i]?.map fun e => ⟨s.clause, e⟩

def first? (s : Snapshot) : Option (Sigma Clause.Entry) :=
  s.entries.head?.map fun e => ⟨s.clause, e⟩

def last? (s : Snapshot) : Option (Sigma Clause.Entry) :=
  s.entries.getLast?.map fun e => ⟨s.clause, e⟩

/-- What is left after the first entry. -/
def rest (s : Snapshot) : Snapshot := ⟨s.clause, s.entries.drop 1⟩

end Snapshot

end SelectQuery
