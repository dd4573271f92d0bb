import SelectQuery.Query.Clause

/-!
# Refusals

Why a statement or its settings are refused, with the wording and the JSON form of each.
-/

namespace SelectQuery

inductive RenderError where
  /-- There is nothing to put after SELECT. -/
  | emptySelectList
  /-- A formula or table name is blank. -/
  | emptyFormula (clause : Clause) (position : Nat)
  /-- The settings could not be loaded, or may not be used. -/
  | invalidSettings (reason : String)
  deriving DecidableEq

namespace RenderError

def message : RenderError → String
  | emptySelectList => "Cannot render SELECT statement: the SELECT list is empty"
  | emptyFormula clause position =>
    "Empty formula in " ++ clause.keyword ++ " clause at position " ++ toString position
  | invalidSettings reason => "Invalid render configuration: " ++ reason

/-- The clause that is at fault, if one is. -/
def clause : RenderError → Option Clause
  | emptySelectList => some .select
  | emptyFormula clause _ => some clause
  | invalidSettings _ => none

/-- The name of the kind of refusal. -/
def name : RenderError → String
  | emptySelectList => "EmptySelectList"
  | emptyFormula .. => "EmptyFormula"
  | invalidSettings _ => "InvalidConfig"

def toJson : RenderError → Json
  | emptySelectList => .str "EmptySelectList"
  | emptyFormula clause position =>
    .obj [("EmptyFormula", .obj [("clause", .str clause.name), ("position", .ofNat position)])]
  | invalidSettings reason => .obj [("InvalidConfig", .str reason)]

def inspect : RenderError → Inspect
  | emptySelectList => .atom "EmptySelectList"
  | emptyFormula clause position =>
    .record "EmptyFormula" [("clause", .atom clause.name), ("position", .atom (toString position))]
  | invalidSettings reason => .wrapped "InvalidConfig" (.text reason)

end RenderError

end SelectQuery
