import SelectQuery.Query.Clause

/-!
# Expectations on entries

Comparing an entry with what it should be, field by field: the first field that differs is reported
with both of its values.
-/

namespace SelectQuery

/-- A field that is not what it should be. -/
structure Mismatch where
  reason : String
  actual : Inspect
  wanted : Inspect

namespace Mismatch

def message (m : Mismatch) : String :=
  "assertion `left == right` failed: " ++ m.reason ++ "\n  left: " ++ m.actual.line ++
    "\n right: " ++ m.wanted.line

/-- Reports two values that are not equal. -/
def unlessEq {α : Type} [DecidableEq α] (inspect : α → Inspect) (reason : String)
    (actual wanted : α) :
    Except Mismatch Unit :=
  if actual = wanted then .ok () else .error ⟨reason, inspect actual, inspect wanted⟩

def unlessText (reason actual wanted : String) : Except Mismatch Unit :=
  unlessEq .text reason actual wanted

def unlessAlias (reason : String) (actual wanted : Option String) : Except Mismatch Unit :=
  unlessEq (.ofOption .text) reason actual wanted

end Mismatch

open Mismatch

def Item.expect (i : Item) (formula : String) (aliasName : Option String) :
    Except Mismatch Unit := do
  unlessText ("Expected formula '" ++ formula ++ "', found '" ++ i.formula ++ "'") i.formula formula
  unlessAlias "Selection alias mismatch" i.aliasName aliasName

def Source.expect (s : Source) (table : String) (aliasName : Option String) :
    Except Mismatch Unit := do
  unlessText "Table name mismatch" s.table table
  unlessAlias "Table alias mismatch" s.aliasName aliasName

def Predicate.expect (p : Predicate) (formula token : String) : Except Mismatch Unit := do
  unlessText "Predicate formula mismatch" p.formula formula
  unlessText
    ("Expected operator '" ++ token ++ "' for '" ++ formula ++
      "', found '" ++ p.connective.token ++ "'")
    p.connective.token token

def SortKey.expect (k : SortKey) (formula : String) (aliasName : Option String)
    (direction : Direction) :
    Except Mismatch Unit := do
  k.item.expect formula aliasName
  unlessEq Direction.inspect "Sort direction mismatch" k.direction direction

/-- The formulas of a list of items, in order and in number. -/
def expectFormulas (items : List Item) (wanted : List String) : Except Mismatch Unit :=
  unlessEq (fun l => .list (l.map .text)) "Selection order mismatch" (items.map (·.formula)) wanted

end SelectQuery
