import SelectQuery.Proofs.Render.Text

/-!
# What is noted

The log of a rendering tells how far it came: a record is noted as soon as what it speaks of has
been done, and a refusal ends the log where it ends the statement. So the log follows from which
clauses can be written, `isWritten`, whatever comes of the statement as a whole. Main statement:
`log_render`.
-/

namespace SelectQuery

/-- What is seen of a record: its level, its name or its sentence, and its values. -/
def LogRecord.seen (r : LogRecord) :
    LogLevel × Option String × Option String × List (String × Json) :=
  (r.level, r.name?, r.message?, r.fields)

theorem Connective.token_ne_and_iff (c : Connective) : c.token ≠ "AND" ↔ c ≠ .and := by
  cases c with
  | and => simp [token]
  | or => simp [token]
  | other t free => simp [token, free.1]

namespace Logged

variable {α β : Type}

/-- What is noted once a step has succeeded. -/
def logAfter (x : Except RenderError α) (log : α → List LogRecord) : List LogRecord :=
  match x with
  | .ok a => log a
  | .error _ => []

theorem log_bind (x : Logged α) (f : α → Logged β) :
    (x >>= f).log = x.log ++ logAfter x.result fun a => (f a).log := by
  cases hx : x.result with
  | ok a => exact log_bind_ok hx f
  | error e => exact (log_bind_error hx f).trans (List.append_nil _).symm

theorem logAfter_const (x : Except RenderError α) (log : List LogRecord) :
    logAfter x (fun _ => log) = if x.isOk then log else [] := by
  cases x <;> rfl

end Logged

namespace Settings

variable (s : Settings) (q : Query)

/-! ### Clauses by themselves -/

/-- A clause of a query, none where it is left out, or why it cannot be written. -/
def clause : Clause → Except RenderError (Option String)
  | .select => some <$> s.selectClause q.distinct q.items
  | .source => s.sourceClause q.sources
  | .filter => (s.predicateClause .filter q.filters).result
  | .group => s.groupClause q.groups
  | .having => (s.predicateClause .having q.havings).result
  | .order => s.orderClause q.orders

def isWritten (c : Clause) : Bool := (s.clause q c).isOk

/-- All clauses before this one can be written. -/
def Reaches (c : Clause) : Prop := ∀ d ∈ Clause.all.takeWhile (· ≠ c), s.isWritten q d = true

instance (c : Clause) : Decidable (s.Reaches q c) := List.decidableBAll ..

/-- The record that the first connective of a clause is dropped, if it is noted: the clause is
reached, its first formula is accepted and the connective is not AND. The record says the clause as
`word`. -/
def dropped (c : Clause) (word : String) (ps : List Predicate) :
    List (LogLevel × Option String × Option String × List (String × Json)) :=
  match ps.head? with
  | none => []
  | some p =>
    if s.Reaches q c ∧ s.rejects p.formula = false ∧ p.connective.token ≠ "AND" then
      [(.trace, none, some "leading predicate operator ignored",
        [("clause", .str word), ("operator", .str p.connective.token)])]
    else []

theorem reaches_filter_iff : s.Reaches q .filter ↔
    s.isWritten q .select = true ∧ s.isWritten q .source = true := by
  show (∀ d ∈ [Clause.select, .source], s.isWritten q d = true) ↔ _
  simp

theorem reaches_having_iff : s.Reaches q .having ↔
    s.Reaches q .filter ∧ s.isWritten q .filter = true ∧ s.isWritten q .group = true := by
  rw [reaches_filter_iff]
  show (∀ d ∈ [Clause.select, .source, .filter, .group], s.isWritten q d = true) ↔ _
  simp [and_assoc]

/-! ### The log of a clause and of a statement -/

/-- FROM is left out exactly when there is nothing to read from. -/
theorem logAfter_sourceClause (log : List LogRecord) :
    (Logged.logAfter (s.sourceClause q.sources) fun source =>
      (if source.isNone then [.withoutSources] else []) ++ log) =
    if s.isWritten q .source then (if q.sources = [] then [.withoutSources] else []) ++ log
    else [] := by
  rw [isWritten, clause, sourceClause_eq]
  cases s.checkFormulas .source (q.formulas .source) with
  | error e => rfl
  | ok u =>
    have hnone : (s.written q .source).isNone = true ↔ q.sources = [] := by
      rw [written]
      cases hsources : q.sources <;> simp [Query.entries, hsources]
    show (if (s.written q .source).isNone then [LogRecord.withoutSources] else []) ++ log =
      (if q.sources = [] then [.withoutSources] else []) ++ log
    simp only [hnone]

theorem log_predicateClause (c : Clause) (ps : List Predicate) :
    (s.predicateClause c ps).log =
      match ps.head? with
      | none => []
      | some p =>
        if s.rejects p.formula = false ∧ p.connective.token ≠ "AND" then
          [.connectiveIgnored c p.connective]
        else [] := by
  cases ps with
  | nil => rfl
  | cons p ps =>
    simp only [predicateClause, Logged.log_bind, Logged.log_ofExcept, Logged.result_ofExcept,
      Logged.log_noteIf, Logged.result_noteIf, Logged.log_pure, Logged.logAfter_const,
      List.head?_cons, p.connective.token_ne_and_iff, checkFormula]
    cases s.rejects p.formula with
    | true => rfl
    | false =>
      by_cases hand : p.connective = .and
      · simp [hand]
      · simp [hand]
        rfl

theorem isWritten_source_of_nil {q : Query} (h : q.sources = []) :
    s.isWritten q .source = true := by
  rw [isWritten, clause, h]
  rfl

theorem log_render_eq : (s.render q).log =
    .span dialect ::
      if s.validate.isOk then
        .started q.distinct q.items.length q.sources.length ::
          ((if s.isWritten q .select ∧ q.sources = [] then [.withoutSources] else []) ++
            (if s.Reaches q .filter then (s.predicateClause .filter q.filters).log else []) ++
            (if s.Reaches q .having then (s.predicateClause .having q.havings).log else []))
      else [] := by
  have hselect : (s.selectClause q.distinct q.items).isOk = s.isWritten q .select := by
    rw [isWritten, clause]
    cases s.selectClause q.distinct q.items <;> rfl
  have hnote : (Except.ok () : Except RenderError Unit).isOk = true := rfl
  -- What a step adds to the log stands inside the `if` of every step before it.
  simp only [render, Logged.log_bind, Logged.log_note, Logged.result_note, Logged.log_ofExcept,
    Logged.result_ofExcept, Logged.log_noteIf, Logged.result_noteIf, Logged.log_pure,
    Logged.logAfter_const, logAfter_sourceClause, hselect, hnote, if_true, ite_self,
    List.nil_append, List.append_nil, List.singleton_append, reaches_having_iff,
    reaches_filter_iff]
  cases s.isWritten q .select with
  | false => simp
  | true =>
    cases hsource : s.isWritten q .source with
    | false =>
      have hne : q.sources ≠ [] := fun h => by simp [s.isWritten_source_of_nil h] at hsource
      simp [hne]
    | true => simp [ite_and, isWritten, clause]

theorem dropped_eq {c : Clause} {word : String} (hword : c.keyword = word) (ps : List Predicate) :
    s.dropped q c word ps =
      if s.Reaches q c then (s.predicateClause c ps).log.map LogRecord.seen else [] := by
  rw [dropped, log_predicateClause, ← hword]
  cases ps.head? with
  | none => simp
  | some p =>
    by_cases hreaches : s.Reaches q c
    · simp only [hreaches, true_and, if_true]
      split <;> rfl
    · simp [hreaches]

/-- The log holds exactly these records, in this order, whether the statement is written or refused
and wherever it is refused. -/
theorem log_render (s : Settings) (q : Query) :
    (s.render q).log.map LogRecord.seen =
      (.debug, some "render", none, [("renderer", .str "ansi")]) ::
        if s.validate = .ok () then
          (.debug, none, some "rendering select statement", [("distinct", .bool q.distinct),
            ("selections", .ofNat q.items.length), ("tables", .ofNat q.sources.length)]) ::
            ((if s.isWritten q .select = true ∧ q.sources = [] then
              [(.warn, none, some "model has no tables, rendering SELECT without FROM", [])]
              else []) ++
            s.dropped q .filter "WHERE" q.filters ++ s.dropped q .having "HAVING" q.havings)
        else [] := by
  have hvalidate : s.validate.isOk = true ↔ s.validate = .ok () := by
    cases s.validate <;> simp [Except.isOk, Except.toBool]
  have hfilter : s.dropped q .filter "WHERE" q.filters = _ := s.dropped_eq q rfl q.filters
  have hhaving : s.dropped q .having "HAVING" q.havings = _ := s.dropped_eq q rfl q.havings
  simp only [log_render_eq, hfilter, hhaving, hvalidate, List.map_cons, List.map_append,
    List.map_nil, apply_ite (List.map LogRecord.seen)]
  rfl

-- WHERE is refused at its second formula, after its first connective has been dropped.
example : (({} : Settings).render
    { items := [⟨"a", none⟩], filters := [⟨"p", .or⟩, ⟨"", .and⟩], havings := [⟨"h", .or⟩] }).log =
    [.span "ansi", .started true 1 0, .withoutSources, .connectiveIgnored .filter .or] := by
  decide

end Settings

end SelectQuery
