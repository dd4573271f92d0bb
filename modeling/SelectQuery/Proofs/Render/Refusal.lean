import SelectQuery.Proofs.Render.Text

/-!
# Which refusal

A query may be at fault in many places at once; the refusal names one of them. The order is that of
the statement: the settings, the SELECT list as a whole, then clause by clause the least place of a
blank formula. Main statement: `statement_eq_error_iff`.
-/

namespace SelectQuery

/-- The first blank formula of a query stands at a place of a clause's list: nothing before it in
the list is blank, and nothing in the lists of the clauses before. -/
structure Query.FirstBlank (q : Query) (c : Clause) (i : Nat) : Prop where
  lt_length : i < (q.formulas c).length
  isBlank_at : Text.isBlank (q.formulas c)[i] = true
  before : ∀ j, (hj : j < i) → Text.isBlank (q.formulas c)[j] = false
  earlier : ∀ d, Clause.all.idxOf d < Clause.all.idxOf c →
    ∀ f ∈ q.formulas d, Text.isBlank f = false

theorem mem_iff_idxOf_lt {α : Type} [DecidableEq α] {l before after : List α} {c d : α}
    (hl : l = before ++ c :: after) (hnodup : l.Nodup) : d ∈ before ↔ l.idxOf d < l.idxOf c := by
  subst hl
  have hc : c ∉ before := fun hmem =>
    (List.nodup_append.mp hnodup).2.2 c hmem c List.mem_cons_self rfl
  have hidx : (before ++ c :: after).idxOf c = before.length := by
    rw [List.idxOf_append_of_notMem hc, List.idxOf_cons_self, Nat.add_zero]
  rw [hidx]
  constructor
  · intro hd
    rw [List.idxOf_append_of_mem hd]
    exact List.idxOf_lt_length_of_mem hd
  · intro hlt
    by_contra hd
    rw [List.idxOf_append_of_notMem hd] at hlt
    omega

namespace Settings

variable (s : Settings) (q : Query)

theorem exists_invalidSettings_of_validate_eq_error {e : RenderError} (h : s.validate = .error e) :
    ∃ reason, e = .invalidSettings reason := by
  rw [validate] at h
  split at h
  · exact ⟨_, (Except.error.inj h).symm⟩
  · split at h
    · exact ⟨_, (Except.error.inj h).symm⟩
    · cases h

theorem checkFormulas_eq_error_iff (c : Clause) (fs : List String) (e : RenderError) :
    s.checkFormulas c fs = .error e ↔ ∃ i, e = .emptyFormula c i ∧
      ∃ hi : i < fs.length, s.rejects fs[i] = true ∧
        ∀ j, (hj : j < i) → s.rejects fs[j] = false := by
  have hfind : s.checkFormulas c fs = .error e ↔
      ∃ i, e = .emptyFormula c i ∧ fs.findIdx? s.rejects = some i := by
    rw [checkFormulas]
    cases fs.findIdx? s.rejects <;> simp [eq_comm]
  simp only [hfind, List.findIdx?_eq_some_iff_getElem, Bool.not_eq_true]

theorem checkClauses_eq_error_iff (cs : List Clause) (e : RenderError) :
    s.checkClauses q cs = .error e ↔ ∃ before c after, cs = before ++ c :: after ∧
      (∀ d ∈ before, ∀ f ∈ q.formulas d, s.rejects f = false) ∧
      s.checkFormulas c (q.formulas c) = .error e := by
  induction cs with
  | nil => simp [checkClauses]
  | cons c cs ih =>
    rw [checkClauses]
    cases hc : s.checkFormulas c (q.formulas c) with
    | error e' =>
      constructor
      · intro h
        exact ⟨[], c, cs, rfl, by simp, hc.trans h⟩
      · rintro ⟨before, c', after, hsplit, hbefore, he⟩
        cases before with
        | nil =>
          obtain ⟨rfl, -⟩ := List.cons.inj hsplit
          exact hc.symm.trans he
        | cons b before =>
          obtain ⟨rfl, -⟩ := List.cons.inj hsplit
          have hok := (s.checkFormulas_eq_ok_iff c _).mpr (hbefore c List.mem_cons_self)
          rw [hc] at hok
          cases hok
    | ok u =>
      have hacc := (s.checkFormulas_eq_ok_iff c _).mp hc
      rw [show (Except.ok u >>= fun _ => s.checkClauses q cs) = s.checkClauses q cs from rfl, ih]
      constructor
      · rintro ⟨before, c', after, rfl, hbefore, he⟩
        exact ⟨c :: before, c', after, rfl, List.forall_mem_cons.mpr ⟨hacc, hbefore⟩, he⟩
      · rintro ⟨before, c', after, hsplit, hbefore, he⟩
        cases before with
        | nil =>
          obtain ⟨rfl, -⟩ := List.cons.inj hsplit
          rw [hc] at he
          cases he
        | cons b before =>
          obtain ⟨-, hrest⟩ := List.cons.inj hsplit
          exact ⟨before, c', after, hrest, fun d hd => hbefore d (List.mem_cons_of_mem b hd), he⟩

theorem rejects_eq_isBlank (h : s.rejectBlank = true) (f : String) :
    s.rejects f = Text.isBlank f := by
  rw [rejects, h, Bool.true_and]

/-- What the check of a whole query reports is its first blank formula. -/
theorem checkClauses_all_eq_error_iff (e : RenderError) :
    s.checkClauses q Clause.all = .error e ↔
      s.rejectBlank = true ∧ ∃ c i, e = .emptyFormula c i ∧ q.FirstBlank c i := by
  have hnodup : Clause.all.Nodup := by decide
  rw [checkClauses_eq_error_iff]
  constructor
  · rintro ⟨before, c, after, hall, hbefore, he⟩
    obtain ⟨i, rfl, hi, hat, hleast⟩ := (s.checkFormulas_eq_error_iff c _ e).mp he
    have hreject : s.rejectBlank = true := (Bool.and_eq_true_iff.mp hat).1
    simp only [s.rejects_eq_isBlank hreject] at hat hleast hbefore
    refine ⟨hreject, c, i, rfl, hi, hat, hleast, fun d hd => hbefore d ?_⟩
    exact (mem_iff_idxOf_lt hall hnodup).mpr hd
  · rintro ⟨hreject, c, i, rfl, hfirst⟩
    obtain ⟨before, after, hall⟩ := List.append_of_mem c.mem_all
    refine ⟨before, c, after, hall, fun d hd => ?_, ?_⟩
    · simp only [s.rejects_eq_isBlank hreject]
      exact hfirst.earlier d ((mem_iff_idxOf_lt hall hnodup).mp hd)
    · rw [checkFormulas_eq_error_iff]
      simp only [s.rejects_eq_isBlank hreject]
      exact ⟨i, rfl, hfirst.lt_length, hfirst.isBlank_at, hfirst.before⟩

/-- A refusal is that of the settings, whatever the query; else that of an empty SELECT list,
whatever else is blank; else it names the first blank formula. -/
theorem statement_eq_error_iff (s : Settings) (q : Query) (e : RenderError) :
    (s.statement q = .error e ↔
      (s.validate = .error e ∧ ∃ reason, e = .invalidSettings reason) ∨
      (s.validate = .ok () ∧ q.items = [] ∧ e = .emptySelectList) ∨
      (s.validate = .ok () ∧ q.items ≠ [] ∧ s.rejectBlank = true ∧
        ∃ c i, e = .emptyFormula c i ∧ q.FirstBlank c i)) ∧
    (s.validate = .ok () → s.rejectBlank = false → s.statement q = .error e →
      e = .emptySelectList) := by
  have hiff : s.statement q = .error e ↔
      (s.validate = .error e ∧ ∃ reason, e = .invalidSettings reason) ∨
      (s.validate = .ok () ∧ q.items = [] ∧ e = .emptySelectList) ∨
      (s.validate = .ok () ∧ q.items ≠ [] ∧ s.rejectBlank = true ∧
        ∃ c i, e = .emptyFormula c i ∧ q.FirstBlank c i) := by
    rw [statement_eq, ← checkClauses_all_eq_error_iff]
    cases hvalidate : s.validate with
    | error e' =>
      have hreason := s.exists_invalidSettings_of_validate_eq_error hvalidate
      simp only [bind, Except.bind, Except.error.injEq, reduceCtorEq, false_and, or_false]
      exact ⟨fun h => ⟨h, h ▸ hreason⟩, fun h => h.1⟩
    | ok u =>
      by_cases hitems : q.items = []
      · simp [bind, Except.bind, hitems, eq_comm]
      · cases s.checkClauses q Clause.all <;> simp [bind, Except.bind, pure, Except.pure, hitems]
  refine ⟨hiff, fun hvalidate hreject herror => ?_⟩
  rcases hiff.mp herror with ⟨h, -⟩ | ⟨-, -, h⟩ | ⟨-, -, h, -⟩
  · rw [hvalidate] at h
    cases h
  · exact h
  · rw [hreject] at h
    cases h

-- Two of its formulas are blank; FROM comes before HAVING.
example : ({} : Settings).statement
    { items := [⟨"a", none⟩], sources := [⟨"t", none⟩, ⟨" ", none⟩], havings := [⟨"", .and⟩] } =
    .error (.emptyFormula .source 1) := by
  decide

end Settings

end SelectQuery
