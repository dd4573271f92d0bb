import SelectQuery.Proofs.Render.Text

/-!
# What a statement does not show

The aliases of GROUP BY and ORDER BY entries, the connective of a first predicate and an alias that
is empty leave no trace in a statement. `Query.erase` gives each of them one value, so that erased
queries are equal when the queries agree in all the rest; `statement_erase` says that nothing else
happens to the statement.
-/

namespace SelectQuery

/-- An empty alias is none. -/
def eraseAlias : Option String → Option String
  | none => none
  | some aliasName => if aliasName = "" then none else some aliasName

/-- Predicates without the connective that joins nothing. -/
def eraseLeading : List Predicate → List Predicate
  | [] => []
  | p :: ps => { p with connective := .and } :: ps

/-- The query as far as a statement shows it. -/
def Query.erase (q : Query) : Query where
  distinct := q.distinct
  items := q.items.map fun i => { i with aliasName := eraseAlias i.aliasName }
  sources := q.sources.map fun t => { t with aliasName := eraseAlias t.aliasName }
  filters := eraseLeading q.filters
  groups := q.groups.map fun i => { i with aliasName := none }
  havings := eraseLeading q.havings
  orders := q.orders.map fun k => { k with item := { k.item with aliasName := none } }

namespace Settings

variable (s : Settings) (q : Query)

@[simp] theorem aliasPart_eraseAlias (link : String) (aliasName : Option String) :
    aliasPart link (eraseAlias aliasName) = aliasPart link aliasName := by
  cases aliasName with
  | none => rfl
  | some a => by_cases ha : a = "" <;> simp [eraseAlias, aliasPart, ha]

@[simp] theorem predicateTerms_eraseLeading (ps : List Predicate) :
    s.predicateTerms (eraseLeading ps) = s.predicateTerms ps := by
  cases ps <;> rfl

theorem map_formula_eraseLeading (ps : List Predicate) :
    (eraseLeading ps).map (·.formula) = ps.map (·.formula) := by
  cases ps <;> rfl

theorem formulas_erase (c : Clause) : q.erase.formulas c = q.formulas c := by
  cases c with
  | filter => exact map_formula_eraseLeading q.filters
  | having => exact map_formula_eraseLeading q.havings
  | select | source | group | order => exact List.map_map

theorem terms_erase (c : Clause) : s.terms q.erase c = s.terms q c := by
  cases c <;> simp [terms, Query.erase, Function.comp_def]

theorem heading_erase (c : Clause) : q.erase.heading c = q.heading c := by
  cases c <;> rfl

theorem isEmpty_entries (c : Clause) : (q.entries c).isEmpty = (q.formulas c).isEmpty := by
  rw [Query.formulas, List.isEmpty_map]

theorem text_erase : s.text q.erase = s.text q := by
  have hpresent : q.erase.present = q.present := by
    simp only [Query.present, isEmpty_entries, formulas_erase]
  have hclause : s.clauseText q.erase = s.clauseText q := by
    funext c
    rw [clauseText, clauseText, heading_erase, terms_erase]
  rw [text, text, hpresent, hclause]

theorem checkClauses_erase (cs : List Clause) :
    s.checkClauses q.erase cs = s.checkClauses q cs := by
  induction cs with
  | nil => rfl
  | cons c cs ih => rw [checkClauses, checkClauses, formulas_erase, ih]

theorem statement_erase : s.statement q.erase = s.statement q := by
  have hitems : q.erase.items = [] ↔ q.items = [] := List.map_eq_nil_iff
  simp only [statement_eq, checkClauses_erase, text_erase, hitems]

end Settings

end SelectQuery
