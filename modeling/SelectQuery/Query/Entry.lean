import SelectQuery.Json.Basic
import SelectQuery.Text.Inspect

/-!
# Entries of a query

What the lists of a SELECT statement hold. Formulas, table names, aliases and connective tokens are
texts already written for the database: they are kept as they are, never inspected or changed.
-/

namespace SelectQuery

/-- A formula with an optional alias: a column of the result, or what rows are grouped by. -/
structure Item where
  formula : String
  aliasName : Option String
  deriving DecidableEq

/-- A table to read from, with an optional alias. -/
structure Source where
  table : String
  aliasName : Option String
  deriving DecidableEq

/-! ### Connectives -/

/-- The token between a predicate and the ones before it. A free token is never one of the two that
have a constructor, so equal tokens are equal connectives. -/
inductive Connective where
  | and
  | or
  | other (token : String) (free : token ≠ "AND" ∧ token ≠ "OR")
  deriving DecidableEq

namespace Connective

/-- The connective with a given token; letter case and blanks count. -/
def ofToken (token : String) : Connective :=
  if hand : token = "AND" then and
  else if hor : token = "OR" then or
  else other token ⟨hand, hor⟩

def token : Connective → String
  | and => "AND"
  | or => "OR"
  | other token _ => token

@[simp] theorem token_ofToken (t : String) : (ofToken t).token = t := by
  unfold ofToken
  split
  · simp_all [token]
  · split <;> simp_all [token]

@[simp] theorem ofToken_token (c : Connective) : ofToken c.token = c := by
  cases c with
  | and => simp [token, ofToken]
  | or => simp [token, ofToken]
  | other t free => simp [token, ofToken, free.1, free.2]

theorem token_eq_iff {c : Connective} {t : String} : c.token = t ↔ c = ofToken t :=
  ⟨fun h => h ▸ (ofToken_token c).symm, fun h => h ▸ token_ofToken t⟩

end Connective

/-- A condition and the connective that joins it to the conditions before it. -/
structure Predicate where
  formula : String
  connective : Connective
  deriving DecidableEq

/-- A predicate joined by AND unless something else is given. -/
def Predicate.of (formula : String) (connective : Option Connective) : Predicate :=
  ⟨formula, connective.getD .and⟩

/-! ### Directions and joins -/

inductive Direction where
  | ascending
  | descending
  deriving DecidableEq

namespace Direction

def keyword : Direction → String
  | ascending => "ASC"
  | descending => "DESC"

def name : Direction → String
  | ascending => "Ascending"
  | descending => "Descending"

def all : List Direction := [ascending, descending]

end Direction

/-- What rows are sorted by. -/
structure SortKey where
  item : Item
  direction : Direction
  deriving DecidableEq

/-- A way to join two tables. -/
inductive Join where
  | inner
  | leftOuter
  | rightOuter
  deriving DecidableEq

namespace Join

def keyword : Join → String
  | inner => "JOIN"
  | leftOuter => "LEFT OUTER JOIN"
  | rightOuter => "RIGHT OUTER JOIN"

def name : Join → String
  | inner => "Inner"
  | leftOuter => "LeftOuter"
  | rightOuter => "RightOuter"

def all : List Join := [inner, leftOuter, rightOuter]

end Join

/-! ### Written as JSON -/

def Item.toJson (i : Item) : Json :=
  .obj [("formula", .str i.formula), ("alias", .ofOption .str i.aliasName)]

def Source.toJson (s : Source) : Json :=
  .obj [("table_name", .str s.table), ("alias", .ofOption .str s.aliasName)]

def Connective.toJson (c : Connective) : Json := .str c.token

def Predicate.toJson (p : Predicate) : Json :=
  .obj [("formula", .str p.formula), ("operator", p.connective.toJson)]

def Direction.toJson (d : Direction) : Json := .str d.name

def SortKey.toJson (k : SortKey) : Json :=
  .obj [("selection", k.item.toJson), ("direction", k.direction.toJson)]

def Join.toJson (j : Join) : Json := .str j.name

/-! ### Inspected -/

def Item.inspect (i : Item) : Inspect :=
  .record "Selection" [("formula", .text i.formula), ("alias", .ofOption .text i.aliasName)]

def Source.inspect (s : Source) : Inspect :=
  .record "TableRef" [("table_name", .text s.table), ("alias", .ofOption .text s.aliasName)]

def Connective.inspect : Connective → Inspect
  | .and => .atom "And"
  | .or => .atom "Or"
  | .other token _ => .wrapped "Other" (.wrapped "OperatorToken" (.text token))

def Predicate.inspect (p : Predicate) : Inspect :=
  .record "ConditionalFormula" [("formula", .text p.formula), ("operator", p.connective.inspect)]

def Direction.inspect (d : Direction) : Inspect := .atom d.name

def SortKey.inspect (k : SortKey) : Inspect :=
  .record "OrderBy" [("selection", k.item.inspect), ("direction", k.direction.inspect)]

def Join.inspect (j : Join) : Inspect := .atom j.name

end SelectQuery
