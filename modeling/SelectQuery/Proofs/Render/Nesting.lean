import SelectQuery.Proofs.Render.Reading
import SelectQuery.Proofs.Text.Depth

/-!
# Parentheses in a statement

A statement cut into its pieces: keywords, connectives, conditions, the other texts of the query,
and what stands between them (`text_pieces`). When the texts of the query are balanced, keywords and
connectives stand outside all parentheses, and with parentheses around the predicates every
character of a condition stands inside. All of this goes through from pieces in a row to longer rows
(`Nested.append`), since nothing is left open at the end of a row. Main statement:
`statement_nested`.
-/

namespace SelectQuery

open Text

/-! ### Pieces -/

inductive Piece where
  | keyword (clause : Clause)
  /-- The connective between a predicate and the one before it. -/
  | connective (token : String)
  /-- The formula of a predicate. -/
  | condition (formula : String)
  /-- Any other text of the query. -/
  | name (text : String)
  /-- What is written between texts of the query. -/
  | mark (text : String)

namespace Piece

def text : Piece → String
  | keyword c => c.keyword
  | connective t => t
  | condition f => f
  | name t => t
  | mark t => t

/-- The text of pieces in a row. -/
def textOf (ps : List Piece) : String := String.join (ps.map text)

def clause? : Piece → Option Clause
  | keyword c => some c
  | _ => none

def token? : Piece → Option String
  | connective t => some t
  | _ => none

def condition? : Piece → Option String
  | condition f => some f
  | _ => none

theorem textOf_cons (p : Piece) (ps : List Piece) : textOf (p :: ps) = p.text ++ textOf ps := by
  rw [textOf, textOf, List.map_cons, String.join_cons]

theorem textOf_append (ps qs : List Piece) : textOf (ps ++ qs) = textOf ps ++ textOf qs := by
  rw [textOf, textOf, textOf, List.map_append, String.join_append]

theorem textOf_intercalate (sep : List Piece) (rows : List (List Piece)) :
    textOf (sep.intercalate rows) = (textOf sep).intercalate (rows.map textOf) := by
  induction rows with
  | nil => rfl
  | cons row rows ih =>
    cases rows with
    | nil => simp
    | cons row' rows =>
      rw [List.intercalate_cons_cons, textOf_append, textOf_append, ih]
      exact String.intercalate_cons_cons.symm

end Piece

namespace Settings

open Piece

def aliasPieces (link : String) : Option String → List Piece
  | none => []
  | some aliasName => if aliasName = "" then [] else [.mark link, .name aliasName]

def bodyPieces (s : Settings) (p : Predicate) : List Piece :=
  if s.parenthesize then [.mark "(", .condition p.formula, .mark ")"] else [.condition p.formula]

def predicatePieces (s : Settings) : List Predicate → List (List Piece)
  | [] => []
  | p :: ps => s.bodyPieces p ::
      ps.map fun p => .connective p.connective.token :: .mark " " :: s.bodyPieces p

/-- The terms of a clause in pieces. -/
def termPieces (s : Settings) (q : Query) : Clause → List (List Piece)
  | .select => q.items.map fun i => .name i.formula :: aliasPieces " AS " i.aliasName
  | .source => q.sources.map fun t => .name t.table :: aliasPieces s.sourceLink t.aliasName
  | .filter => s.predicatePieces q.filters
  | .group => q.groups.map fun i => [.name i.formula]
  | .having => s.predicatePieces q.havings
  | .order => q.orders.map fun k => [.name k.item.formula, .mark (directionPart k.direction)]

/-- What follows the keyword of a clause. -/
def afterKeyword (q : Query) : Clause → String
  | .select => if q.distinct then " DISTINCT " else " "
  | _ => " "

def clausePieces (s : Settings) (q : Query) (c : Clause) : List Piece :=
  .keyword c :: .mark (afterKeyword q c) :: [Piece.mark (s.link c)].intercalate (s.termPieces q c)

/-- The statement of a query in pieces. -/
def pieces (s : Settings) (q : Query) : List Piece :=
  [Piece.mark s.clauseSeparator].intercalate (q.present.map (s.clausePieces q))

variable (s : Settings) (q : Query)

theorem textOf_aliasPieces (link : String) (aliasName : Option String) :
    textOf (aliasPieces link aliasName) = aliasPart link aliasName := by
  cases aliasName with
  | none => rfl
  | some a =>
    rw [aliasPieces, aliasPart]
    split
    · rfl
    · simp [textOf, Piece.text]

theorem textOf_bodyPieces (p : Predicate) : textOf (s.bodyPieces p) = s.bodyText p := by
  rw [bodyPieces, bodyText]
  split <;> simp [textOf, Piece.text, String.append_assoc]

theorem map_textOf_predicatePieces (ps : List Predicate) :
    (s.predicatePieces ps).map textOf = s.predicateTerms ps := by
  cases ps with
  | nil => rfl
  | cons p ps =>
    simp only [predicatePieces, predicateTerms, List.map_cons, List.map_map, Function.comp_def,
      textOf_cons, textOf_bodyPieces, Piece.text, String.append_assoc]

theorem map_textOf_termPieces (c : Clause) : (s.termPieces q c).map textOf = s.terms q c := by
  cases c with
  | filter => exact s.map_textOf_predicatePieces q.filters
  | having => exact s.map_textOf_predicatePieces q.havings
  | select | source =>
    simp only [termPieces, terms, List.map_map, Function.comp_def, textOf_cons, textOf_aliasPieces,
      Piece.text]
  | group | order => simp [termPieces, terms, textOf, Piece.text, Function.comp_def]

theorem textOf_clausePieces (c : Clause) : textOf (s.clausePieces q c) = s.clauseText q c := by
  have hheading : q.heading c = c.keyword ++ afterKeyword q c := by
    cases c with
    | select => cases h : q.distinct <;> simp [Query.heading, afterKeyword, h] <;> rfl
    | source | filter | group | having | order => rfl
  have hlink : textOf [Piece.mark (s.link c)] = s.link c := by simp [textOf, Piece.text]
  rw [clausePieces, textOf_cons, textOf_cons, textOf_intercalate, map_textOf_termPieces, hlink,
    clauseText, hheading, String.append_assoc]
  rfl

theorem text_pieces : textOf (s.pieces q) = s.text q := by
  have hseparator : textOf [Piece.mark s.clauseSeparator] = s.clauseSeparator := by
    simp [textOf, Piece.text]
  have hclauses : textOf ∘ s.clausePieces q = s.clauseText q := by
    funext c
    exact s.textOf_clausePieces q c
  rw [pieces, textOf_intercalate, hseparator, List.map_map, hclauses]
  rfl

/-! ### Which pieces there are -/

theorem filterMap_intercalate_mark {α : Type} {f : Piece → Option α} {m : Piece} (hm : f m = none)
    (rows : List (List Piece)) :
    ([m].intercalate rows).filterMap f = rows.flatMap (List.filterMap f) := by
  induction rows with
  | nil => rfl
  | cons row rows ih =>
    cases rows with
    | nil => simp
    | cons row' rows =>
      rw [List.intercalate_cons_cons, List.filterMap_append, List.filterMap_append, ih,
        List.filterMap_cons_none hm, List.filterMap_nil, List.append_nil]
      rfl

/-- A clause that is left out has nothing to count. -/
theorem flatMap_present {α : Type} {f : Clause → List α}
    (hf : ∀ c, (q.entries c).isEmpty = true → f c = []) :
    q.present.flatMap f = Clause.all.flatMap f := by
  have hfilter : ∀ cs : List Clause,
      (cs.filter fun c => !(q.entries c).isEmpty).flatMap f = cs.flatMap f := by
    intro cs
    induction cs with
    | nil => rfl
    | cons c cs ih =>
      cases hc : (q.entries c).isEmpty with
      | true => simp [hc, ih, hf c hc]
      | false => simp [hc, ih]
  exact hfilter Clause.all

/-- The predicates of a clause. -/
def predicatesOf (q : Query) : Clause → List Predicate
  | .filter => q.filters
  | .having => q.havings
  | _ => []

/-- What is found of predicates in a row: the conditions, and the connectives of all but the first.
-/
def foundIn {α : Type} (f : Piece → Option α) : List Predicate → List α
  | [] => []
  | p :: ps => (f (.condition p.formula)).toList ++
      ps.flatMap fun p => (f (.connective p.connective.token)).toList ++
        (f (.condition p.formula)).toList

section Found

variable {α : Type} {f : Piece → Option α} (hname : ∀ t, f (.name t) = none)
  (hmark : ∀ t, f (.mark t) = none)

include hmark

theorem filterMap_bodyPieces (p : Predicate) :
    (s.bodyPieces p).filterMap f = (f (.condition p.formula)).toList := by
  have hcondition : [Piece.condition p.formula].filterMap f =
      (f (.condition p.formula)).toList := by
    cases h : f (.condition p.formula) <;> simp [h]
  rw [bodyPieces]
  split
  · rw [List.filterMap_cons_none (hmark _), ← List.singleton_append, List.filterMap_append,
      hcondition, List.filterMap_cons_none (hmark _), List.filterMap_nil, List.append_nil]
  · exact hcondition

theorem flatMap_predicatePieces (ps : List Predicate) :
    (s.predicatePieces ps).flatMap (List.filterMap f) = foundIn f ps := by
  cases ps with
  | nil => rfl
  | cons p ps =>
    rw [predicatePieces, foundIn, List.flatMap_cons, filterMap_bodyPieces s hmark, List.flatMap_map]
    refine congrArg (_ ++ ps.flatMap ·) (funext fun p => ?_)
    rw [← List.singleton_append, List.filterMap_append, List.filterMap_cons_none (hmark _),
      filterMap_bodyPieces s hmark]
    cases h : f (.connective p.connective.token) <;> simp [h]

include hname

theorem flatMap_termPieces (c : Clause) :
    (s.termPieces q c).flatMap (List.filterMap f) = foundIn f (predicatesOf q c) := by
  have halias : ∀ link aliasName, ∀ p ∈ aliasPieces link aliasName, f p = none := by
    intro link aliasName
    cases aliasName with
    | none => nofun
    | some a =>
      rw [aliasPieces]
      split <;> simp [hname, hmark]
  cases c with
  | filter => exact s.flatMap_predicatePieces hmark q.filters
  | having => exact s.flatMap_predicatePieces hmark q.havings
  | select | source =>
    simp only [termPieces, predicatesOf, foundIn, List.flatMap_eq_nil_iff,
      List.filterMap_eq_nil_iff, List.forall_mem_map, List.forall_mem_cons]
    exact fun e _ => ⟨hname _, halias _ e.aliasName⟩
  | group | order => simp [termPieces, predicatesOf, foundIn, hname, hmark]

theorem filterMap_pieces : (s.pieces q).filterMap f =
    q.present.flatMap fun c => (f (.keyword c)).toList ++ foundIn f (predicatesOf q c) := by
  rw [pieces, filterMap_intercalate_mark (hmark _), List.flatMap_map]
  refine congrArg (q.present.flatMap ·) (funext fun c => ?_)
  rw [clausePieces, ← List.singleton_append, List.filterMap_append,
    List.filterMap_cons_none (hmark _), filterMap_intercalate_mark (hmark _),
    s.flatMap_termPieces q hname hmark]
  cases h : f (.keyword c) <;> simp [h]

end Found

theorem clauses_pieces : (s.pieces q).filterMap clause? = q.present := by
  have hnone : ∀ ps, foundIn clause? ps = [] := by
    intro ps
    cases ps <;> simp [foundIn, clause?]
  rw [s.filterMap_pieces q (fun _ => rfl) fun _ => rfl]
  simp [hnone, clause?]

theorem tokens_pieces : (s.pieces q).filterMap token? = q.shownTokens := by
  have htokens : ∀ ps, foundIn token? ps = ps.tail.map (·.connective.token) := by
    intro ps
    cases ps <;> simp [foundIn, token?, List.map_eq_flatMap]
  rw [s.filterMap_pieces q (fun _ => rfl) fun _ => rfl]
  simp only [htokens]
  rw [flatMap_present q]
  · simp [Clause.all, predicatesOf, token?, Query.shownTokens]
  · intro c hc
    cases c <;> simp_all [predicatesOf, token?, Query.entries]

theorem conditions_pieces : (s.pieces q).filterMap condition? =
    q.formulas .filter ++ q.formulas .having := by
  have hformulas : ∀ ps, foundIn condition? ps = ps.map (·.formula) := by
    intro ps
    cases ps <;> simp [foundIn, condition?, List.map_eq_flatMap]
  rw [s.filterMap_pieces q (fun _ => rfl) fun _ => rfl]
  simp only [hformulas]
  rw [flatMap_present q]
  · show _ = q.filters.map (·.formula) ++ q.havings.map (·.formula)
    simp [Clause.all, predicatesOf, condition?]
  · intro c hc
    cases c <;> simp_all [predicatesOf, condition?, Query.entries]

/-! ### Where the pieces stand -/

/-- A keyword and a connective start outside all parentheses; if predicates are parenthesized, every
character of a condition stands inside, counting the parentheses before it. -/
def Placed (s : Settings) (before : List Char) : Piece → Prop
  | .keyword _ | .connective _ => depth before = 0
  | .condition f => s.parenthesize = true →
      ∀ start x rest, f.toList = start ++ x :: rest → 1 ≤ depth (before ++ start)
  | .name _ | .mark _ => True

/-- A row of pieces with a balanced text, each placed as it should be. -/
structure Nested (s : Settings) (ps : List Piece) : Prop where
  balanced : Balanced (textOf ps)
  placed : ∀ before p after, ps = before ++ p :: after → s.Placed (textOf before).toList p

variable {s q} {ps qs : List Piece}

theorem Placed.congr {before before' : List Char} {p : Piece} (h : depth before = depth before')
    (hp : s.Placed before p) : s.Placed before' p := by
  cases p with
  | keyword c => exact h.symm.trans hp
  | connective t => exact h.symm.trans hp
  | condition f =>
    intro hparen start x rest hf
    have hdepth := hp hparen start x rest hf
    rw [depth_append] at hdepth ⊢
    omega
  | name t => trivial
  | mark t => trivial

namespace Nested

theorem nil : s.Nested [] where
  balanced := by decide
  placed := by simp

/-- What comes after a balanced row stands as deep as by itself. -/
theorem append (hps : s.Nested ps) (hqs : s.Nested qs) : s.Nested (ps ++ qs) where
  balanced := by
    rw [textOf_append]
    exact hps.balanced.append hqs.balanced
  placed := by
    intro before p after h
    rcases List.append_eq_append_iff.mp h with ⟨middle, rfl, hqs'⟩ | ⟨middle, hps', hafter⟩
    · refine (hqs.placed middle p after hqs').congr ?_
      rw [textOf_append, String.toList_append, depth_append, hps.balanced.closed, Int.zero_add]
    · cases middle with
      | nil =>
        obtain rfl : ps = before := by rw [hps', List.append_nil]
        refine (hqs.placed [] p after hafter.symm).congr ?_
        rw [hps.balanced.closed]
        rfl
      | cons p' middle =>
        obtain ⟨rfl, -⟩ := List.cons.inj hafter
        exact hps.placed before p middle hps'

theorem intercalate {sep : List Piece} (hsep : s.Nested sep) {rows : List (List Piece)}
    (hrows : ∀ row ∈ rows, s.Nested row) : s.Nested (sep.intercalate rows) := by
  induction rows with
  | nil => exact nil
  | cons row rows ih =>
    obtain ⟨hrow, hrows⟩ := List.forall_mem_cons.mp hrows
    cases rows with
    | nil => simpa using hrow
    | cons row' rows =>
      rw [List.intercalate_cons_cons]
      exact (hrow.append hsep).append (ih hrows)

theorem singleton {p : Piece} (hbalanced : Balanced p.text) (hplaced : s.Placed [] p) :
    s.Nested [p] where
  balanced := by
    rw [textOf_cons]
    exact hbalanced.append (by decide)
  placed := by
    intro before p' after h
    rcases List.cons_eq_append_iff.mp h with ⟨rfl, hcons⟩ | ⟨middle, -, hnil⟩
    · obtain ⟨rfl, -⟩ := List.cons.inj hcons
      exact hplaced
    · simp at hnil

theorem mark {t : String} (ht : Balanced t) : s.Nested [.mark t] := singleton ht trivial

theorem name {t : String} (ht : Balanced t) : s.Nested [.name t] := singleton ht trivial

theorem connective {t : String} (ht : Balanced t) : s.Nested [.connective t] :=
  singleton (p := .connective t) ht rfl

theorem keyword (c : Clause) : s.Nested [.keyword c] :=
  singleton (p := .keyword c) (by cases c <;> decide) rfl

end Nested

theorem nested_bodyPieces {p : Predicate} (hp : Balanced p.formula) :
    s.Nested (s.bodyPieces p) := by
  rw [bodyPieces]
  split
  · refine ⟨?_, ?_⟩
    · simpa [textOf, Piece.text, String.append_assoc] using hp.between
    · intro before piece after h
      match before with
      | [] =>
        obtain ⟨rfl, -⟩ := List.cons.inj h
        trivial
      | [m] =>
        obtain ⟨rfl, hrest⟩ := List.cons.inj h
        obtain ⟨rfl, -⟩ := List.cons.inj hrest
        intro _ start x rest hf
        have hstart : 0 ≤ depth start := hp.nonneg start ⟨x :: rest, hf.symm⟩
        have hopen : depth (textOf [Piece.mark "("]).toList = 1 := by decide
        rw [depth_append, hopen]
        omega
      | [m, f] =>
        obtain ⟨-, hrest⟩ := List.cons.inj h
        obtain ⟨-, hclose⟩ := List.cons.inj hrest
        obtain ⟨rfl, -⟩ := List.cons.inj hclose
        trivial
      | m :: f :: m' :: before => simp at h
  · rename_i hparen
    exact .singleton hp fun h => absurd h hparen

theorem nested_aliasPieces {link : String} {aliasName : Option String} (hlink : Balanced link)
    (halias : ∀ a ∈ aliasName, Balanced a) : s.Nested (aliasPieces link aliasName) := by
  cases aliasName with
  | none => exact .nil
  | some a =>
    rw [aliasPieces]
    split
    · exact .nil
    · exact (Nested.mark hlink).append (.name (halias a rfl))

theorem nested_predicatePieces {ps : List Predicate} (hformula : ∀ p ∈ ps, Balanced p.formula)
    (htoken : ∀ p ∈ ps.tail, Balanced p.connective.token) :
    ∀ row ∈ s.predicatePieces ps, s.Nested row := by
  cases ps with
  | nil => nofun
  | cons p ps =>
    obtain ⟨hp, hps⟩ := List.forall_mem_cons.mp hformula
    refine List.forall_mem_cons.mpr ⟨nested_bodyPieces hp, List.forall_mem_map.mpr fun p' hp' => ?_⟩
    have hconnective : s.Nested [.connective p'.connective.token] := .connective (htoken p' hp')
    exact hconnective.append ((Nested.mark (by decide)).append (nested_bodyPieces (hps p' hp')))

theorem nested_termPieces (hbalanced : ∀ x ∈ q.shownTexts, Balanced x) (c : Clause) :
    ∀ row ∈ s.termPieces q c, s.Nested row := by
  obtain ⟨hformula, hitem, hsource, hfilter, hhaving⟩ := Query.forall_mem_shownTexts.mp hbalanced
  cases c with
  | select =>
    refine List.forall_mem_map.mpr fun i hi => ?_
    have hname : s.Nested [.name i.formula] := .name (hformula .select i hi)
    exact hname.append (nested_aliasPieces (by decide) (hitem i hi))
  | source =>
    refine List.forall_mem_map.mpr fun t ht => ?_
    have hname : s.Nested [.name t.table] := .name (hformula .source t ht)
    have hlink : Balanced s.sourceLink := by
      rw [sourceLink]
      split <;> decide
    exact hname.append (nested_aliasPieces hlink (hsource t ht))
  | filter => exact nested_predicatePieces (hformula .filter) hfilter
  | having => exact nested_predicatePieces (hformula .having) hhaving
  | group => exact List.forall_mem_map.mpr fun i hi => .name (hformula .group i hi)
  | order =>
    refine List.forall_mem_map.mpr fun k hk => ?_
    have hname : s.Nested [.name k.item.formula] := .name (hformula .order k hk)
    exact hname.append (.mark (by cases k.direction <;> decide))

/-- An indent of blanks opens and closes nothing. -/
theorem balanced_link (hblank : isBlank s.indent = true) (c : Clause) : Balanced (s.link c) := by
  have hindent : Balanced s.indent := balanced_of_notMem
    (fun h => absurd (List.all_eq_true.mp hblank _ h) (by decide))
    (fun h => absurd (List.all_eq_true.mp hblank _ h) (by decide))
  have hpredicates : Balanced (if s.pretty then "\n" ++ s.indent else " ") := by
    split
    · exact Balanced.append (by decide) hindent
    · decide
  cases c with
  | filter | having => exact hpredicates
  | select | source | group | order => exact (by decide : Balanced ", ")

theorem nested_clausePieces (hblank : isBlank s.indent = true)
    (hbalanced : ∀ x ∈ q.shownTexts, Balanced x) (c : Clause) : s.Nested (s.clausePieces q c) := by
  have hafter : Balanced (afterKeyword q c) := by
    cases c with
    | select =>
      rw [afterKeyword]
      split <;> decide
    | source | filter | group | having | order => exact (by decide : Balanced " ")
  have hrow : s.Nested ([Piece.mark (s.link c)].intercalate (s.termPieces q c)) :=
    Nested.intercalate (.mark (balanced_link hblank c)) (nested_termPieces hbalanced c)
  exact (Nested.keyword c).append ((Nested.mark hafter).append hrow)

theorem nested_pieces (hblank : isBlank s.indent = true)
    (hbalanced : ∀ x ∈ q.shownTexts, Balanced x) : s.Nested (s.pieces q) := by
  have hseparator : Balanced s.clauseSeparator := by
    rw [clauseSeparator]
    split <;> decide
  refine Nested.intercalate (.mark hseparator) (List.forall_mem_map.mpr fun c _ => ?_)
  exact nested_clausePieces hblank hbalanced c

/-- The statement of a query with balanced texts is balanced. It is a row of pieces whose keywords
are those of the clauses it has and whose connectives and conditions are those of its predicates,
and each of these stands as deep as it should. -/
theorem statement_nested (s : Settings) (q : Query) (sql : String) (h : s.statement q = .ok sql)
    (hbalanced : ∀ x ∈ q.shownTexts, Balanced x) :
    Balanced sql ∧ sql = textOf (s.pieces q) ∧
    (s.pieces q).filterMap clause? = q.present ∧
    (s.pieces q).filterMap token? = q.shownTokens ∧
    (s.pieces q).filterMap condition? = q.formulas .filter ++ q.formulas .having ∧
    ∀ before p after, s.pieces q = before ++ p :: after → s.Placed (textOf before).toList p := by
  obtain ⟨hvalidate, -, -, rfl⟩ := (s.statement_eq_ok_iff_checked q sql).mp h
  have hnested := nested_pieces (isBlank_indent_of_validate hvalidate) hbalanced
  rw [← s.text_pieces q]
  exact ⟨hnested.balanced, rfl, s.clauses_pieces q, s.tokens_pieces q, s.conditions_pieces q,
    hnested.placed⟩

/-- The alias of a group and the first connective are not shown, so they need not be balanced. The
second connective stands outside, and the condition after it inside from its first character. -/
theorem statement_nested_of_two_predicates :
    let s : Settings := { pretty := false }
    let q : Query :=
      { items := [⟨"f(a)", none⟩]
        filters := [⟨"p", .other ")" (by decide)⟩, ⟨"(q)", .or⟩]
        groups := [⟨"a", some "("⟩] }
    let sql := "SELECT DISTINCT f(a) WHERE (p) OR ((q)) GROUP BY a"
    s.statement q = .ok sql ∧ (∀ x ∈ q.shownTexts, Balanced x) ∧ Balanced sql ∧
    depth "SELECT DISTINCT f(a) WHERE (p) ".toList = 0 ∧
    1 ≤ depth "SELECT DISTINCT f(a) WHERE (p) OR (".toList := by
  intro s q sql
  have hsql : s.statement q = .ok sql := by decide
  have hbalanced : ∀ x ∈ q.shownTexts, Balanced x := by decide
  obtain ⟨hbalancedsql, -, -, -, -, hplaced⟩ := statement_nested s q sql hsql hbalanced
  have hpieces : s.pieces q =
      [.keyword .select, .mark " DISTINCT ", .name "f(a)", .mark " ", .keyword .filter, .mark " ",
        .mark "(", .condition "p", .mark ")", .mark " ", .connective "OR", .mark " ",
        .mark "(", .condition "(q)", .mark ")", .mark " ", .keyword .group, .mark " ",
        .name "a"] := by
    rfl
  have houtside := hplaced ((s.pieces q).take 10) (.connective "OR") ((s.pieces q).drop 11) hpieces
  have hinside := hplaced ((s.pieces q).take 13) (.condition "(q)") ((s.pieces q).drop 14) hpieces
  have hbefore : (textOf ((s.pieces q).take 13)).toList ++ [] =
      "SELECT DISTINCT f(a) WHERE (p) OR (".toList := by
    decide
  refine ⟨hsql, hbalanced, hbalancedsql, houtside, ?_⟩
  rw [← hbefore]
  exact hinside rfl [] '(' ['q', ')'] rfl

end Settings

end SelectQuery
