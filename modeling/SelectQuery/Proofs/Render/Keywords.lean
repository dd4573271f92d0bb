import SelectQuery.Proofs.Render.Reading
import SelectQuery.Proofs.Text.Place

/-!
# Clause keywords of a statement

Between the texts of a query a statement has blanks, commas and parentheses, and none of these is in
the first word of a keyword. So when no text of the query holds such a word, it stands in the
heading of its own clause and nowhere else (`lacks_clauseText`), and the first places of the
keywords are the places of the clauses (`places_row`). Main statement: `keywords_of_statement`.
-/

namespace SelectQuery

open Text

/-- The first word of a clause's keyword. -/
def Clause.lead : Clause → String
  | select => "SELECT"
  | source => "FROM"
  | filter => "WHERE"
  | group => "GROUP"
  | having => "HAVING"
  | order => "ORDER"

theorem Clause.exists_keyword_eq (c : Clause) : ∃ rest, c.keyword = c.lead ++ rest := by
  cases c with
  | group | order => exact ⟨" BY", rfl⟩
  | select | source | filter | having => exact ⟨"", rfl⟩

theorem Clause.notMem_lead_of_blank {g : Char} (hg : isBlankChar g = true) (c : Clause) :
    g ∉ c.lead.toList := by
  have hlead : c.lead.toList.all (!isBlankChar ·) = true := by cases c <;> decide
  intro hmem
  have hnot := List.all_eq_true.mp hlead g hmem
  rw [hg] at hnot
  cases hnot

theorem Query.exists_heading_eq (q : Query) (d : Clause) :
    ∃ words, q.heading d = words ++ " " ∧ ∀ c, d ≠ c → Lacks words c.lead := by
  cases d with
  | select =>
    rw [heading]
    cases q.distinct with
    | true => exact ⟨"SELECT DISTINCT", rfl, by decide⟩
    | false => exact ⟨"SELECT", rfl, by decide⟩
  | source => exact ⟨"FROM", rfl, by decide⟩
  | filter => exact ⟨"WHERE", rfl, by decide⟩
  | group => exact ⟨"GROUP BY", rfl, by decide⟩
  | having => exact ⟨"HAVING", rfl, by decide⟩
  | order => exact ⟨"ORDER BY", rfl, by decide⟩

namespace Settings

variable {s : Settings} {q : Query} {c : Clause}

/-! ### Clauses that lack the word -/

theorem lacks_spaced {x y : String} (hx : Lacks x c.lead) (hy : Lacks y c.lead) :
    Lacks (x ++ " " ++ y) c.lead := by
  refine hx.append_gap hy (by decide) ?_
  cases c <;> decide

theorem lacks_aliasPart {x link : String} {aliasName : Option String} (hx : Lacks x c.lead)
    (hlink : link = " " ∨ link = " AS ") (halias : ∀ a ∈ aliasName, Lacks a c.lead) :
    Lacks (x ++ aliasPart link aliasName) c.lead := by
  have hempty : Lacks (x ++ "") c.lead := by rwa [String.append_empty]
  cases aliasName with
  | none => exact hempty
  | some a =>
    rw [aliasPart]
    split
    · exact hempty
    · rw [← String.append_assoc]
      rcases hlink with rfl | rfl
      · exact lacks_spaced hx (halias a rfl)
      · have has : Lacks "AS" c.lead := by cases c <;> decide
        have hsplit : x ++ " AS " = x ++ " " ++ "AS" ++ " " := by
          rw [String.append_assoc, String.append_assoc]
          rfl
        rw [hsplit]
        exact lacks_spaced (lacks_spaced hx has) (halias a rfl)

theorem lacks_bodyText {p : Predicate} (hp : Lacks p.formula c.lead) :
    Lacks (s.bodyText p) c.lead := by
  have hempty : Lacks "" c.lead := by cases c <;> decide
  rw [bodyText]
  split
  · have hopen : Lacks ("" ++ "(" ++ p.formula) c.lead :=
      hempty.append_gap hp (by decide) (by cases c <;> decide)
    have hclosed : Lacks ("" ++ "(" ++ p.formula ++ ")" ++ "") c.lead :=
      hopen.append_gap hempty (by decide) (by cases c <;> decide)
    rwa [String.append_empty, String.empty_append] at hclosed
  · exact hp

theorem lacks_predicateTerms {ps : List Predicate} (hformula : ∀ p ∈ ps, Lacks p.formula c.lead)
    (htoken : ∀ p ∈ ps.tail, Lacks p.connective.token c.lead) :
    ∀ t ∈ s.predicateTerms ps, Lacks t c.lead := by
  cases ps with
  | nil => nofun
  | cons p ps =>
    obtain ⟨hp, hps⟩ := List.forall_mem_cons.mp hformula
    refine List.forall_mem_cons.mpr ⟨lacks_bodyText hp, fun t ht => ?_⟩
    obtain ⟨p', hp', rfl⟩ := List.mem_map.mp ht
    exact lacks_spaced (htoken p' hp') (lacks_bodyText (hps p' hp'))

theorem lacks_terms (hfree : ∀ x ∈ q.shownTexts, Lacks x c.lead) (d : Clause) :
    ∀ t ∈ s.terms q d, Lacks t c.lead := by
  obtain ⟨hformula, hitem, hsource, hfilter, hhaving⟩ := Query.forall_mem_shownTexts.mp hfree
  intro t ht
  cases d with
  | select =>
    obtain ⟨i, hi, rfl⟩ := List.mem_map.mp ht
    exact lacks_aliasPart (hformula .select i hi) (.inr rfl) (hitem i hi)
  | source =>
    obtain ⟨i, hi, rfl⟩ := List.mem_map.mp ht
    have hlink : s.sourceLink = " " ∨ s.sourceLink = " AS " := by
      rw [sourceLink]
      cases s.aliasStyle with
      | bare => exact .inl rfl
      | as => exact .inr rfl
    exact lacks_aliasPart (hformula .source i hi) hlink (hsource i hi)
  | filter => exact lacks_predicateTerms (hformula .filter) hfilter t ht
  | having => exact lacks_predicateTerms (hformula .having) hhaving t ht
  | group =>
    obtain ⟨i, hi, rfl⟩ := List.mem_map.mp ht
    exact hformula .group i hi
  | order =>
    obtain ⟨k, hk, rfl⟩ := List.mem_map.mp ht
    have hdirection : ∃ word, directionPart k.direction = " " ++ word ∧ Lacks word c.lead := by
      cases k.direction with
      | ascending => exact ⟨"ASC", rfl, by cases c <;> decide⟩
      | descending => exact ⟨"DESC", rfl, by cases c <;> decide⟩
    obtain ⟨word, hpart, hword⟩ := hdirection
    rw [hpart, ← String.append_assoc]
    exact lacks_spaced (hformula .order k hk) hword

/-- What stands between the terms of a clause. -/
theorem apart_link (hblank : isBlank s.indent = true) (c d : Clause) :
    Apart (s.link d) c.lead := by
  have hcomma : Apart ", " c.lead := by cases c <;> decide
  have hpredicates : Apart (if s.pretty then "\n" ++ s.indent else " ") c.lead := by
    intro g hg
    refine c.notMem_lead_of_blank ?_
    split at hg
    · rw [String.toList_append] at hg
      rcases List.mem_append.mp hg with hline | hindent
      · exact List.mem_singleton.mp hline ▸ rfl
      · exact List.all_eq_true.mp hblank g hindent
    · exact List.mem_singleton.mp hg ▸ rfl
  cases d with
  | filter | having => exact hpredicates
  | select | source | group | order => exact hcomma

theorem link_ne_empty (s : Settings) (d : Clause) : s.link d ≠ "" := by
  have hpredicates : (if s.pretty then "\n" ++ s.indent else " ") ≠ "" := by
    split
    · simp
    · decide
  cases d with
  | filter | having => exact hpredicates
  | select | source | group | order => exact (by decide : ", " ≠ "")

/-- The first word of a keyword stands in no clause but its own. -/
theorem lacks_clauseText (hblank : isBlank s.indent = true)
    (hfree : ∀ x ∈ q.shownTexts, Lacks x c.lead) {d : Clause} (hd : d ≠ c) :
    Lacks (s.clauseText q d) c.lead := by
  obtain ⟨words, hwords, hlacks⟩ := q.exists_heading_eq d
  have hrow : Lacks ((s.link d).intercalate (s.terms q d)) c.lead :=
    Lacks.intercalate (by cases c <;> decide) (lacks_terms hfree d) (s.link_ne_empty d)
      (apart_link hblank c d)
  rw [clauseText, hwords]
  exact lacks_spaced (hlacks c hd) hrow

/-! ### Places -/

/-- The clauses of a row with the first places of their keywords. -/
def places (text : List Char) (cs : List Clause) : List (Nat × Clause) :=
  cs.filterMap fun c => (firstPlace? c.keyword.toList text).map (·, c)

/-- In a row of clauses after others, none of which holds the first word of another's keyword, the
keywords are first found in the order of the row, and all of them after the others. -/
theorem places_row (line : Clause → List Char) {g : Char} (hg : ∀ c : Clause, g ∉ c.lead.toList)
    (hstart : ∀ c : Clause, c.keyword.toList <+: line c) (text : List Char)
    (before cs : List Clause)
    (htext : cs ≠ [] →
      text = (before.map line).flatMap (· ++ [g]) ++ [g].intercalate (cs.map line))
    (hbefore : ∀ c ∈ cs, ∀ d ∈ before, ¬ c.lead.toList <:+: line d)
    (hcs : cs.Pairwise fun d c => ¬ c.lead.toList <:+: line d) :
    (places text cs).map (·.2) = cs ∧ (places text cs).Pairwise (·.1 ≤ ·.1) ∧
      ∀ p ∈ places text cs, ((before.map line).flatMap (· ++ [g])).length ≤ p.1 := by
  induction cs generalizing before with
  | nil => exact ⟨rfl, .nil, nofun⟩
  | cons c cs ih =>
    obtain ⟨hc, hcs⟩ := List.pairwise_cons.mp hcs
    obtain ⟨hbeforec, hbefore⟩ := List.forall_mem_cons.mp hbefore
    have hrow : c.keyword.toList <+: [g].intercalate ((c :: cs).map line) := by
      refine (hstart c).trans ?_
      cases cs with
      | nil => simp
      | cons d cs =>
        rw [List.map_cons, List.map_cons, List.intercalate_cons_cons, List.append_assoc]
        exact List.prefix_append _ _
    have hfound : firstPlace? c.keyword.toList text =
        some ((before.map line).flatMap (· ++ [g])).length := by
      obtain ⟨after, hafter⟩ := hrow
      obtain ⟨rest, hkeyword⟩ := c.exists_keyword_eq
      rw [htext (by simp), ← hafter, hkeyword, String.toList_append]
      exact firstPlace?_lines (hg c) (List.forall_mem_map.mpr hbeforec)
    have hplaces : places text (c :: cs) =
        (((before.map line).flatMap (· ++ [g])).length, c) :: places text cs := by
      rw [places, List.filterMap_cons, hfound]
      rfl
    -- The clause joins those that the rest comes after.
    have hstep : ((before ++ [c]).map line).flatMap (· ++ [g]) =
        (before.map line).flatMap (· ++ [g]) ++ (line c ++ [g]) := by
      simp
    obtain ⟨hclauses, horder, hafter⟩ := ih (before ++ [c])
      (by
        intro hne
        obtain ⟨d, ds, rfl⟩ := List.exists_cons_of_ne_nil hne
        rw [htext (by simp), hstep]
        simp)
      (by
        intro d hd
        rw [List.forall_mem_append]
        exact ⟨hbefore d hd, List.forall_mem_singleton.mpr (hc d hd)⟩)
      hcs
    have hle : ∀ p ∈ places text cs, ((before.map line).flatMap (· ++ [g])).length ≤ p.1 := by
      intro p hp
      refine le_trans ?_ (hafter p hp)
      rw [hstep, List.length_append]
      exact Nat.le_add_right _ _
    rw [hplaces]
    exact ⟨congrArg (c :: ·) hclauses, List.pairwise_cons.mpr ⟨hle, horder⟩,
      List.forall_mem_cons.mpr ⟨le_rfl, hle⟩⟩

theorem keyword_prefix_clauseText (s : Settings) (q : Query) (c : Clause) :
    c.keyword.toList <+: (s.clauseText q c).toList := by
  have hheading : ∃ rest, q.heading c = c.keyword ++ rest := by
    cases c with
    | select =>
      rw [Query.heading]
      cases q.distinct with
      | true => exact ⟨" DISTINCT ", rfl⟩
      | false => exact ⟨" ", rfl⟩
    | source | filter | group | having | order => exact ⟨" ", rfl⟩
  obtain ⟨rest, hrest⟩ := hheading
  rw [clauseText, hrest, String.append_assoc, String.toList_append]
  exact List.prefix_append _ _

theorem exists_clauseSeparator_eq (s : Settings) : ∃ g, isBlankChar g = true ∧
    (if s.pretty then "\n" else " ") = String.singleton g := by
  split
  · exact ⟨'\n', rfl, rfl⟩
  · exact ⟨' ', rfl, rfl⟩

/-- A clause that is left out leaves its keyword nowhere. -/
theorem firstPlace?_text_of_notMem (hblank : isBlank s.indent = true)
    (hfree : ∀ x ∈ q.shownTexts, Lacks x c.lead) (hc : c ∉ q.present) :
    firstPlace? c.keyword.toList (s.text q).toList = none := by
  obtain ⟨g, hg, hseparator⟩ := s.exists_clauseSeparator_eq
  have hlines : ∀ x ∈ q.present.map (s.clauseText q), Lacks x c.lead :=
    List.forall_mem_map.mpr fun d hd => lacks_clauseText hblank hfree fun hdc => hc (hdc ▸ hd)
  have htext : Lacks (s.text q) c.lead := by
    rw [text, hseparator]
    refine Lacks.intercalate (by cases c <;> decide) hlines (by simp) ?_
    rw [Apart, String.toList_singleton, List.forall_mem_singleton]
    exact c.notMem_lead_of_blank hg
  obtain ⟨rest, hkeyword⟩ := c.exists_keyword_eq
  refine firstPlace?_eq_none fun hinfix => htext (List.IsInfix.trans ?_ hinfix)
  rw [hkeyword, String.toList_append]
  exact (List.prefix_append _ _).isInfix

theorem keywordClauses_text (hblank : isBlank s.indent = true)
    (hfree : ∀ c : Clause, ∀ x ∈ q.shownTexts, Lacks x c.lead) :
    keywordClauses (s.text q) = q.present := by
  obtain ⟨g, hg, hseparator⟩ := s.exists_clauseSeparator_eq
  have hpresent : places (s.text q).toList Clause.all = places (s.text q).toList q.present := by
    rw [places, places, Query.present, List.filterMap_filter]
    refine List.filterMap_congr fun c _ => ?_
    by_cases hc : c ∈ q.present
    · rw [if_pos (List.mem_filter.mp hc).2]
    · have hentries : ¬ (!(q.entries c).isEmpty) = true := fun h =>
        hc (List.mem_filter.mpr ⟨c.mem_all, h⟩)
      rw [firstPlace?_text_of_notMem hblank (hfree c) hc, if_neg hentries]
      rfl
  have hnodup : q.present.Nodup := List.Pairwise.filter _ (by decide : Clause.all.Nodup)
  obtain ⟨hclauses, horder, -⟩ := places_row (fun c => (s.clauseText q c).toList)
    (fun c => c.notMem_lead_of_blank hg) (s.keyword_prefix_clauseText q) (s.text q).toList []
    q.present
    (by
      intro _
      rw [text, hseparator, String.toList_intercalate, List.map_map, String.toList_singleton]
      rfl)
    (by simp)
    (hnodup.imp fun {d c} hd => lacks_clauseText hblank (hfree c) hd)
  rw [← hpresent] at hclauses horder
  have hsorted : (places (s.text q).toList Clause.all).mergeSort (fun a b => a.1 ≤ b.1) =
      places (s.text q).toList Clause.all :=
    List.mergeSort_of_pairwise (horder.imp fun {a b} hab => decide_eq_true hab)
  show ((places (s.text q).toList Clause.all).mergeSort fun a b => a.1 ≤ b.1).map (·.2) = q.present
  rw [hsorted, hclauses]

/-- When no text of a query holds the first word of a keyword, the keywords in its statement are
those of the clauses it has, in their order. -/
theorem keywords_of_statement (s : Settings) (q : Query) (sql : String)
    (h : s.statement q = .ok sql) (hfree : ∀ c : Clause, ∀ x ∈ q.shownTexts, Lacks x c.lead) :
    (keywordClauses sql).map Clause.keyword =
      "SELECT" :: (([.source, .filter, .group, .having, .order] : List Clause).filter
        fun c => !(q.entries c).isEmpty).map Clause.keyword := by
  obtain ⟨hvalidate, hitems, -, rfl⟩ := (s.statement_eq_ok_iff_checked q sql).mp h
  rw [keywordClauses_text (isBlank_indent_of_validate hvalidate) hfree,
    Query.present_of_ne_nil hitems]
  rfl

/-- The words may stand in lower case or be cut apart by a blank, and a formula may be blank. -/
theorem keywords_of_statement_of_cut_words :
    let s : Settings := { indent := "\t", aliasStyle := .as, rejectBlank := false }
    let q : Query :=
      { items := [⟨"SEL ECT", some "from"⟩, ⟨"", none⟩]
        sources := [⟨"GRO", some "ORDE"⟩]
        groups := [⟨"BY", none⟩]
        havings := [⟨"R", .or⟩, ⟨"WHER", .other "GROU" (by decide)⟩] }
    let sql : String :=
      "SELECT DISTINCT SEL ECT AS from, \nFROM GRO AS ORDE\nGROUP BY BY\nHAVING (R)\n\tGROU (WHER)"
    s.statement q = .ok sql ∧ (∀ c : Clause, ∀ x ∈ q.shownTexts, Lacks x c.lead) ∧
    (keywordClauses sql).map Clause.keyword = ["SELECT", "FROM", "GROUP BY", "HAVING"] := by
  intro s q sql
  have hsql : s.statement q = .ok sql := by decide
  have hfree : ∀ c : Clause, ∀ x ∈ q.shownTexts, Lacks x c.lead := by decide
  exact ⟨hsql, hfree, keywords_of_statement s q sql hsql hfree⟩

end Settings

end SelectQuery
