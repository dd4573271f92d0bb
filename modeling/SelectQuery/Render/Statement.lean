import SelectQuery.Query.Basic
import SelectQuery.Render.Log
import SelectQuery.Render.Settings

/-!
# SQL text

The text of a statement under given settings. Each clause is its keyword and the terms of its
entries; a clause without entries is left out, except that SELECT may not be. Formulas are never
changed, only arranged.
-/

namespace SelectQuery

namespace Settings

/-! ### Refused formulas -/

def rejects (s : Settings) (formula : String) : Bool := s.rejectBlank && Text.isBlank formula

def checkFormula (s : Settings) (clause : Clause) (position : Nat) (formula : String) :
    Except RenderError Unit :=
  if s.rejects formula then .error (.emptyFormula clause position) else .ok ()

/-- Refuses the first formula of a clause's list that is to be refused. -/
def checkFormulas (s : Settings) (clause : Clause) (formulas : List String) :
    Except RenderError Unit :=
  match formulas.findIdx? s.rejects with
  | some i => .error (.emptyFormula clause i)
  | none => .ok ()

/-! ### Terms -/

/-- A text with the alias after it, unless there is none or it is empty. -/
def withAlias (text link : String) : Option String → String
  | none => text
  | some aliasName => if aliasName = "" then text else text ++ link ++ aliasName

/-- A formula and its alias after AS. -/
def aliased (formula : String) (aliasName : Option String) : String :=
  withAlias formula " AS " aliasName

def itemTerm (i : Item) : String := aliased i.formula i.aliasName

def sourceTerm (s : Settings) (t : Source) : String :=
  withAlias t.table (match s.aliasStyle with | .bare => " " | .as => " AS ") t.aliasName

def predicateTerm (s : Settings) (p : Predicate) : String :=
  if s.parenthesize then "(" ++ p.formula ++ ")" else p.formula

/-- A predicate after the first, with its connective. -/
def joinedPredicate (s : Settings) (p : Predicate) : String :=
  s.predicateSeparator ++ p.connective.token ++ " " ++ s.predicateTerm p

def sortTerm (k : SortKey) : String := k.item.formula ++ " " ++ k.direction.keyword

/-! ### Clauses -/

def selectClause (s : Settings) (distinct : Bool) (items : List Item) : Except RenderError String :=
  if items.isEmpty then .error .emptySelectList
  else do
    s.checkFormulas .select (items.map (·.formula))
    return (if distinct then "SELECT DISTINCT " else "SELECT ") ++
      ", ".intercalate (items.map itemTerm)

/-- A clause whose terms stand in a row with commas between them; none without entries. -/
def commaClause {α : Type} (s : Settings) (clause : Clause) (formula term : α → String)
    (entries : List α) : Except RenderError (Option String) :=
  if entries.isEmpty then .ok none
  else do
    s.checkFormulas clause (entries.map formula)
    return some (clause.keyword ++ " " ++ ", ".intercalate (entries.map term))

def sourceClause (s : Settings) (sources : List Source) : Except RenderError (Option String) :=
  s.commaClause .source Source.table s.sourceTerm sources

def groupClause (s : Settings) (items : List Item) : Except RenderError (Option String) :=
  s.commaClause .group Item.formula Item.formula items

def orderClause (s : Settings) (keys : List SortKey) : Except RenderError (Option String) :=
  s.commaClause .order (·.item.formula) sortTerm keys

/-- The predicates of a clause after its keyword. The connective of the first one joins nothing;
that it is dropped is noted, once its formula has been accepted, unless it is AND. -/
def predicateClause (s : Settings) (clause : Clause) : List Predicate → Logged (Option String)
  | [] => pure none
  | first :: rest => do
    Logged.ofExcept (s.checkFormula clause 0 first.formula)
    Logged.noteIf (first.connective != .and) (.connectiveIgnored clause first.connective)
    Logged.ofExcept (s.checkFormulas clause ((first :: rest).map (·.formula)))
    return some (clause.keyword ++ " " ++ s.predicateTerm first ++
      String.join (rest.map s.joinedPredicate))

/-! ### Statements -/

/-- The name under which the log knows this way of writing. -/
def dialect : String := "ansi"

/-- The statement of a query and the log of its writing. The settings are checked first, then the
clauses are written in the order of the statement, and the first refusal ends it. -/
def render (s : Settings) (q : Query) : Logged String := do
  Logged.note (.span dialect)
  Logged.ofExcept s.validate
  Logged.note (.started q.distinct q.items.length q.sources.length)
  let select ← Logged.ofExcept (s.selectClause q.distinct q.items)
  let source ← Logged.ofExcept (s.sourceClause q.sources)
  Logged.noteIf source.isNone .withoutSources
  let filter ← s.predicateClause .filter q.filters
  let group ← Logged.ofExcept (s.groupClause q.groups)
  let having ← s.predicateClause .having q.havings
  let order ← Logged.ofExcept (s.orderClause q.orders)
  return s.clauseSeparator.intercalate
    (select :: [source, filter, group, having, order].filterMap id)

/-- The statement of a query, or why there is none. -/
def statement (s : Settings) (q : Query) : Except RenderError String := (s.render q).result

end Settings

end SelectQuery
