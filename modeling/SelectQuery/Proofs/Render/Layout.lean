import SelectQuery.Proofs.Render.Text
import SelectQuery.Proofs.Text.Words

/-!
# Layout

`pretty` and `indent` decide only which blanks stand between the clauses of a statement and between
its predicates, and checked settings let nothing but blanks be an indent. So two layouts of one
query have the same words (`words_text`), and a query is refused under both or under none. Main
statement: `statement_layout`.
-/

namespace SelectQuery

namespace Settings

/-- Settings that differ in nothing but their layout. -/
structure SameButLayout (s t : Settings) : Prop where
  aliasStyle : s.aliasStyle = t.aliasStyle
  parenthesize : s.parenthesize = t.parenthesize
  rejectBlank : s.rejectBlank = t.rejectBlank

variable {s t : Settings} {q : Query}

/-! ### The words of a text -/

theorem words_clauses (s : Settings) (texts : List String) :
    Text.words ((if s.pretty then "\n" else " ").intercalate texts).toList =
      texts.flatMap fun x => Text.words x.toList := by
  apply Text.words_intercalate <;> split <;> decide

/-- A predicate starts a word of its own, on a line of its own or not. -/
theorem words_predicates (hs : s.validate = .ok ()) {c : Clause} (hc : c = .filter ∨ c = .having)
    (terms : List String) : Text.words ((s.link c).intercalate terms).toList =
      terms.flatMap fun x => Text.words x.toList := by
  have hlink : s.link c = if s.pretty then "\n" ++ s.indent else " " := by
    rcases hc with rfl | rfl <;> rfl
  have hblank : Text.isBlank ("\n" ++ s.indent) = true := by
    rw [Text.isBlank, String.toList_append, List.all_append, Bool.and_eq_true_iff]
    exact ⟨by decide, isBlank_indent_of_validate hs⟩
  rw [hlink]
  apply Text.words_intercalate <;> split
  · simp
  · decide
  · exact hblank
  · decide

theorem predicateTerms_congr (h : s.SameButLayout t) (ps : List Predicate) :
    s.predicateTerms ps = t.predicateTerms ps := by
  have hbody : s.bodyText = t.bodyText := by
    funext p
    rw [bodyText, bodyText, h.parenthesize]
  cases ps with
  | nil => rfl
  | cons p ps => rw [predicateTerms, predicateTerms, hbody]

theorem terms_congr (h : s.SameButLayout t) (q : Query) (c : Clause) :
    s.terms q c = t.terms q c := by
  cases c with
  | source => simp only [terms, sourceLink, h.aliasStyle]
  | filter => exact predicateTerms_congr h q.filters
  | having => exact predicateTerms_congr h q.havings
  | select | group | order => rfl

theorem words_clauseText (hs : s.validate = .ok ()) (ht : t.validate = .ok ())
    (h : s.SameButLayout t) (q : Query) (c : Clause) :
    Text.words (s.clauseText q c).toList = Text.words (t.clauseText q c).toList := by
  have hpredicates : c = .filter ∨ c = .having →
      Text.words (s.clauseText q c).toList = Text.words (t.clauseText q c).toList := by
    intro hc
    rw [clauseText, clauseText, terms_congr h]
    cases t.terms q c with
    | nil => rfl
    | cons term terms =>
      -- The heading belongs to the first of the terms.
      rw [← String.intercalate_cons_append, ← String.intercalate_cons_append,
        words_predicates hs hc, words_predicates ht hc]
  cases c with
  | filter => exact hpredicates (.inl rfl)
  | having => exact hpredicates (.inr rfl)
  | select | source | group | order =>
    rw [clauseText, clauseText, terms_congr h]
    rfl

theorem words_text (hs : s.validate = .ok ()) (ht : t.validate = .ok ()) (h : s.SameButLayout t)
    (q : Query) : Text.words (s.text q).toList = Text.words (t.text q).toList := by
  rw [text, text, words_clauses, words_clauses, List.flatMap_map, List.flatMap_map]
  simp only [words_clauseText hs ht h]

/-! ### What is refused -/

theorem checkFormulas_congr (h : s.SameButLayout t) (c : Clause) (fs : List String) :
    s.checkFormulas c fs = t.checkFormulas c fs := by
  have hrejects : s.rejects = t.rejects := by
    funext f
    rw [rejects, rejects, h.rejectBlank]
  rw [checkFormulas, checkFormulas, hrejects]

theorem checkClauses_congr (h : s.SameButLayout t) (q : Query) (cs : List Clause) :
    s.checkClauses q cs = t.checkClauses q cs := by
  induction cs with
  | nil => rfl
  | cons c cs ih => rw [checkClauses, checkClauses, checkFormulas_congr h, ih]

/-- Under two settings that differ only in their layout a query is refused for the same reason, or
is written with the same words. -/
theorem statement_layout (s t : Settings) (q : Query) (hs : s.validate = .ok ())
    (ht : t.validate = .ok ()) (h : s.SameButLayout t) :
    (∃ e, s.statement q = .error e ∧ t.statement q = .error e) ∨
    ∃ a b, s.statement q = .ok a ∧ t.statement q = .ok b ∧
      Text.normalizeBlanks a = Text.normalizeBlanks b := by
  have hwords := Text.normalizeBlanks_eq_of_words_eq (words_text hs ht h q)
  rw [statement_of_validate hs, statement_of_validate ht, ← checkClauses_congr h]
  by_cases hitems : q.items = []
  · rw [if_pos hitems, if_pos hitems]
    exact .inl ⟨.emptySelectList, rfl, rfl⟩
  · rw [if_neg hitems, if_neg hitems]
    cases s.checkClauses q Clause.all with
    | error e => exact .inl ⟨e, rfl, rfl⟩
    | ok u => exact .inr ⟨s.text q, t.text q, rfl, rfl, hwords⟩

/-- Two layouts of one query; a formula with a line break and blanks at its end is in both. -/
theorem statement_layout_of_pretty :
    let s : Settings := { indent := "\t\u2003" }
    let t : Settings := { pretty := false, indent := "" }
    let q : Query := {
      items := [⟨"a\n", none⟩]
      filters := [⟨" x = 1 ", .and⟩, ⟨"y", .or⟩] }
    s.validate = .ok () ∧ t.validate = .ok () ∧ s.SameButLayout t ∧
    s.statement q = .ok "SELECT DISTINCT a\n\nWHERE ( x = 1 )\n\t\u2003OR (y)" ∧
    t.statement q = .ok "SELECT DISTINCT a\n WHERE ( x = 1 ) OR (y)" ∧
    ∃ a b, s.statement q = .ok a ∧ t.statement q = .ok b ∧
      Text.normalizeBlanks a = Text.normalizeBlanks b := by
  intro s t q
  have hs : s.validate = .ok () := by decide
  have ht : t.validate = .ok () := by decide
  have h : s.SameButLayout t := ⟨rfl, rfl, rfl⟩
  have hsql : s.statement q = .ok "SELECT DISTINCT a\n\nWHERE ( x = 1 )\n\t\u2003OR (y)" := by
    decide
  refine ⟨hs, ht, h, hsql, by decide, ?_⟩
  rcases statement_layout s t q hs ht h with ⟨e, herror, -⟩ | hboth
  · rw [hsql] at herror
    cases herror
  · exact hboth

end Settings

end SelectQuery
