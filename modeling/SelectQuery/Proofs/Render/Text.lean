import SelectQuery.Proofs.Text.Rows
import SelectQuery.Render.Statement

/-!
# The text of a statement

`Settings.render` writes a statement clause by clause and may stop at any of them. Here the text is
said in one piece: the clauses that have entries in a row, each a heading and a row of terms. The
bridge is `statement_eq`: a query is checked as a whole, and then it is that text. Main statement:
`statement_eq_ok_iff`, when there is a statement and which text it is.
-/

namespace SelectQuery

namespace Query

/-- The clauses that a statement has: those whose lists are not empty. -/
def present (q : Query) : List Clause := Clause.all.filter fun c => !(q.entries c).isEmpty

def heading (q : Query) : Clause → String
  | .select => if q.distinct then "SELECT DISTINCT " else "SELECT "
  | .source => "FROM "
  | .filter => "WHERE "
  | .group => "GROUP BY "
  | .having => "HAVING "
  | .order => "ORDER BY "

theorem present_of_ne_nil {q : Query} (hitems : q.items ≠ []) :
    q.present = .select ::
      [.source, .filter, .group, .having, .order].filter fun c => !(q.entries c).isEmpty := by
  simp [present, Clause.all, List.filter_cons, entries, hitems]

end Query

namespace Settings

/-! ### The text written out -/

/-- What an alias adds to the text before it; an empty one adds nothing. -/
def aliasPart (link : String) : Option String → String
  | none => ""
  | some aliasName => if aliasName = "" then "" else link ++ aliasName

def bodyText (s : Settings) (p : Predicate) : String :=
  if s.parenthesize then "(" ++ p.formula ++ ")" else p.formula

/-- Predicates as they stand in a row: all but the first have their connective before them. -/
def predicateTerms (s : Settings) : List Predicate → List String
  | [] => []
  | p :: ps => s.bodyText p :: ps.map fun p => p.connective.token ++ " " ++ s.bodyText p

def directionPart : Direction → String
  | .ascending => " ASC"
  | .descending => " DESC"

def sourceLink (s : Settings) : String :=
  match s.aliasStyle with
  | .bare => " "
  | .as => " AS "

def terms (s : Settings) (q : Query) : Clause → List String
  | .select => q.items.map fun i => i.formula ++ aliasPart " AS " i.aliasName
  | .source => q.sources.map fun t => t.table ++ aliasPart s.sourceLink t.aliasName
  | .filter => s.predicateTerms q.filters
  | .group => q.groups.map fun i => i.formula
  | .having => s.predicateTerms q.havings
  | .order => q.orders.map fun k => k.item.formula ++ directionPart k.direction

def link (s : Settings) : Clause → String
  | .filter | .having => if s.pretty then "\n" ++ s.indent else " "
  | _ => ", "

def clauseText (s : Settings) (q : Query) (c : Clause) : String :=
  q.heading c ++ (s.link c).intercalate (s.terms q c)

/-- The statement of a query, whether or not it would be refused. -/
def text (s : Settings) (q : Query) : String :=
  (if s.pretty then "\n" else " ").intercalate (q.present.map (s.clauseText q))

/-! ### Terms -/

theorem withAlias_eq (text link : String) (aliasName : Option String) :
    withAlias text link aliasName = text ++ aliasPart link aliasName := by
  cases aliasName with
  | none => simp [withAlias, aliasPart]
  | some a =>
    by_cases ha : a = ""
    · simp [withAlias, aliasPart, ha]
    · simp [withAlias, aliasPart, ha, String.append_assoc]

theorem sortTerm_eq (k : SortKey) : sortTerm k = k.item.formula ++ directionPart k.direction := by
  cases h : k.direction <;>
    simp [sortTerm, directionPart, h, Direction.keyword, String.append_assoc]

/-! ### Clauses -/

variable (s : Settings) (q : Query)

def written (c : Clause) : Option String :=
  if (q.entries c).isEmpty then none else some (s.clauseText q c)

theorem filterMap_written (cs : List Clause) :
    (cs.map (s.written q)).filterMap id =
      (cs.filter fun c => !(q.entries c).isEmpty).map (s.clauseText q) := by
  induction cs with
  | nil => rfl
  | cons c cs ih => by_cases h : (q.entries c).isEmpty <;> simp_all [written]

theorem selectClause_eq : s.selectClause q.distinct q.items =
    if q.items = [] then .error .emptySelectList
    else do
      s.checkFormulas .select (q.formulas .select)
      return s.clauseText q .select := by
  simp only [selectClause, List.isEmpty_iff]
  have hterms : q.items.map itemTerm = s.terms q .select := by
    simp [terms, itemTerm, aliased, withAlias_eq]
  rw [hterms]
  rfl

theorem commaClause_eq {c : Clause} {α : Type} {formula term : α → String} {entries : List α}
    (hentries : (q.entries c).isEmpty = entries.isEmpty)
    (hformulas : q.formulas c = entries.map formula) (hterms : s.terms q c = entries.map term)
    (hlink : s.link c = ", ") (hheading : q.heading c = c.keyword ++ " ") :
    s.commaClause c formula term entries = do
      s.checkFormulas c (q.formulas c)
      return s.written q c := by
  cases entries with
  | nil =>
    have hnone : s.written q c = none := by
      rw [written, hentries]
      rfl
    rw [hformulas, hnone]
    rfl
  | cons e es =>
    have hsome : s.written q c =
        some (c.keyword ++ " " ++ ", ".intercalate ((e :: es).map term)) := by
      rw [written, hentries, clauseText, hheading, hlink, hterms]
      rfl
    rw [hformulas, hsome]
    rfl

theorem sourceClause_eq : s.sourceClause q.sources = do
    s.checkFormulas .source (q.formulas .source)
    return s.written q .source := by
  refine commaClause_eq s q rfl rfl (List.map_congr_left fun t _ => ?_) rfl rfl
  rw [sourceTerm, withAlias_eq]
  rfl

theorem groupClause_eq : s.groupClause q.groups = do
    s.checkFormulas .group (q.formulas .group)
    return s.written q .group :=
  commaClause_eq s q rfl rfl rfl rfl rfl

theorem orderClause_eq : s.orderClause q.orders = do
    s.checkFormulas .order (q.formulas .order)
    return s.written q .order := by
  refine commaClause_eq s q rfl rfl (List.map_congr_left fun k _ => ?_) rfl rfl
  rw [sortTerm_eq]

/-- Checking the first formula before all of them changes nothing. -/
theorem checkFormula_bind_checkFormulas (c : Clause) (f : String) (fs : List String) :
    (s.checkFormula c 0 f >>= fun _ => s.checkFormulas c (f :: fs)) =
      s.checkFormulas c (f :: fs) := by
  by_cases hf : s.rejects f
  · simp [checkFormula, checkFormulas, List.findIdx?_cons, hf]
    rfl
  · simp only [checkFormula, hf]
    rfl

theorem result_predicateClause (c : Clause) (ps : List Predicate) :
    (s.predicateClause c ps).result = do
      s.checkFormulas c (ps.map (·.formula))
      return if ps.isEmpty then none
        else some (c.keyword ++ " " ++ s.predicateSeparator.intercalate (s.predicateTerms ps)) := by
  cases ps with
  | nil => rfl
  | cons p ps =>
    have hjoined : ∀ p ∈ ps, s.joinedPredicate p =
        s.predicateSeparator ++ (p.connective.token ++ " " ++ s.bodyText p) := by
      intro p _
      simp only [joinedPredicate, String.append_assoc]
      rfl
    have hrow : s.predicateSeparator.intercalate (s.predicateTerms (p :: ps)) =
        s.predicateTerm p ++ String.join (ps.map s.joinedPredicate) := by
      rw [predicateTerms, Text.intercalate_cons_eq_join, List.map_map, List.map_congr_left hjoined]
      rfl
    rw [List.map_cons, ← checkFormula_bind_checkFormulas, hrow, bind_assoc, ← String.append_assoc]
    simp only [predicateClause, Logged.result_bind, Logged.result_ofExcept, Logged.result_noteIf,
      Logged.result_pure]
    rfl

theorem filterClause_eq : (s.predicateClause .filter q.filters).result = do
    s.checkFormulas .filter (q.formulas .filter)
    return s.written q .filter := by
  rw [result_predicateClause]
  rfl

theorem havingClause_eq : (s.predicateClause .having q.havings).result = do
    s.checkFormulas .having (q.formulas .having)
    return s.written q .having := by
  rw [result_predicateClause]
  rfl

/-! ### Statements -/

def checkClauses : List Clause → Except RenderError Unit
  | [] => .ok ()
  | c :: cs => do
    s.checkFormulas c (q.formulas c)
    checkClauses cs

theorem statement_eq : s.statement q = do
    s.validate
    if q.items = [] then .error .emptySelectList
    else do
      s.checkClauses q Clause.all
      return s.text q := by
  simp only [statement, render, Logged.result_bind, Logged.result_note, Logged.result_ofExcept,
    Logged.result_noteIf, Logged.result_pure, selectClause_eq, sourceClause_eq, filterClause_eq,
    groupClause_eq, havingClause_eq, orderClause_eq]
  by_cases hitems : q.items = []
  · simp only [hitems, if_true]
    rfl
  · have htext : s.clauseSeparator.intercalate (s.clauseText q .select ::
        ([.source, .filter, .group, .having, .order].map (s.written q)).filterMap id) =
        s.text q := by
      rw [filterMap_written, text, Query.present_of_ne_nil hitems]
      rfl
    simp only [hitems, if_false, checkClauses, Clause.all, ← htext, bind_assoc]
    rfl

theorem statement_of_validate {s : Settings} (h : s.validate = .ok ()) (q : Query) :
    s.statement q = if q.items = [] then .error .emptySelectList
      else (s.checkClauses q Clause.all).map fun _ => s.text q := by
  rw [statement_eq, h]
  by_cases hitems : q.items = []
  · rw [if_pos hitems, if_pos hitems]
    rfl
  · rw [if_neg hitems, if_neg hitems]
    cases s.checkClauses q Clause.all <;> rfl

/-! ### When there is a statement -/

variable {s} in
theorem isBlank_indent_of_validate (h : s.validate = .ok ()) : Text.isBlank s.indent = true := by
  rw [validate] at h
  split at h
  · cases h
  · rename_i hblank
    rw [Bool.not_eq_true, Bool.not_eq_false'] at hblank
    exact hblank

theorem checkFormulas_eq_ok_iff (c : Clause) (fs : List String) :
    s.checkFormulas c fs = .ok () ↔ ∀ f ∈ fs, s.rejects f = false := by
  rw [← List.findIdx?_eq_none_iff, checkFormulas]
  cases fs.findIdx? s.rejects <;> simp

theorem checkClauses_eq_ok_iff (cs : List Clause) :
    s.checkClauses q cs = .ok () ↔ ∀ c ∈ cs, ∀ f ∈ q.formulas c, s.rejects f = false := by
  induction cs with
  | nil => simp [checkClauses]
  | cons c cs ih =>
    rw [List.forall_mem_cons, ← ih, ← checkFormulas_eq_ok_iff s c, checkClauses]
    cases s.checkFormulas c (q.formulas c) with
    | error e => simp [bind, Except.bind]
    | ok u => simp [bind, Except.bind]

theorem forall_rejects_eq_false_iff :
    (∀ c, ∀ f ∈ q.formulas c, s.rejects f = false) ↔
      s.rejectBlank = false ∨ ∀ c, ∀ f ∈ q.formulas c, Text.isBlank f = false := by
  cases hreject : s.rejectBlank <;> simp [rejects, hreject]

theorem statement_eq_ok_iff_checked (sql : String) :
    s.statement q = .ok sql ↔
      s.validate = .ok () ∧ q.items ≠ [] ∧ s.checkClauses q Clause.all = .ok () ∧
      sql = s.text q := by
  rw [statement_eq]
  cases s.validate with
  | error e => simp [bind, Except.bind]
  | ok u =>
    by_cases hitems : q.items = []
    · simp [bind, Except.bind, hitems]
    · cases s.checkClauses q Clause.all with
      | error e => simp [bind, Except.bind, hitems]
      | ok u => simp [bind, Except.bind, pure, Except.pure, hitems, eq_comm]

/-- There is a statement exactly when the settings may be used, something is selected, and no
formula or table name is blank unless such are allowed; and then it is the text. -/
theorem statement_eq_ok_iff (s : Settings) (q : Query) (sql : String) :
    s.statement q = .ok sql ↔
      s.validate = .ok () ∧ q.items ≠ [] ∧
      (s.rejectBlank = false ∨ ∀ c, ∀ f ∈ q.formulas c, Text.isBlank f = false) ∧
      sql = s.text q := by
  rw [statement_eq_ok_iff_checked, checkClauses_eq_ok_iff, ← forall_rejects_eq_false_iff]
  simp [Clause.mem_all]

end Settings

end SelectQuery
