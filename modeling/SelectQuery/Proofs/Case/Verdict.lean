import SelectQuery.Proofs.Case.Written
import SelectQuery.Proofs.Text.Trim

/-!
# Verdicts

When a case passes is told by what it expects and by what comes of its query, without trimming
anything (`Case.passes_iff_meets`). A text is met with any number of line feeds after it, but one
that ends in a line feed itself is never met, since those are what is cut off; a refusal is met by
what it is called (`RenderError.Called`), with any blanks around it. Main statement:
`written_case_passes_iff`.
-/

namespace SelectQuery

/-- What a refusal is called in a case. -/
inductive RenderError.Called : RenderError → String → Prop
  | emptySelectList : Called .emptySelectList "EmptySelectList"
  | emptyFormula (clause : Clause) (position : Nat) :
    Called (.emptyFormula clause position) "EmptyFormula"
  | invalidSettings (reason : String) : Called (.invalidSettings reason) "InvalidConfig"

theorem RenderError.called_iff {e : RenderError} {name : String} :
    e.Called name ↔ e.name = name := by
  constructor
  · rintro (_ | _ | _) <;> rfl
  · rintro rfl
    cases e with
    | emptySelectList => exact .emptySelectList
    | emptyFormula clause position => exact .emptyFormula clause position
    | invalidSettings reason => exact .invalidSettings reason

/-- An outcome is what is expected of it, as a text or as the name of a refusal. -/
inductive Meets : Option String → Option String → Except RenderError String → Prop
  | text {sql : String} (hend : sql.toList.getLast? ≠ some '\n') (n : Nat) (error : Option String) :
    Meets (some (Text.withLineFeeds sql n)) error (.ok sql)
  | refusal {e : RenderError} {name before after : String} (hname : e.Called name)
    (hbefore : Text.isBlank before = true) (hafter : Text.isBlank after = true) :
    Meets none (some (before ++ name ++ after)) (.error e)

theorem meets_text_iff {text sql : String} {error : Option String} :
    Meets (some text) error (.ok sql) ↔ Text.trimEndLines text = sql := by
  rw [Text.trimEndLines_eq_iff]
  constructor
  · rintro ⟨hend, n⟩
    exact ⟨hend, n, rfl⟩
  · rintro ⟨hend, n, rfl⟩
    exact .text hend n error

/-- The name of a refusal has no blank at its ends, so trimming takes off what is around it. -/
theorem meets_refusal_iff {name : String} {e : RenderError} :
    Meets none (some name) (.error e) ↔ Text.trimBlanks name = e.name := by
  have hhead : ∀ c ∈ e.name.toList.head?, Text.isBlankChar c = false := by
    cases e <;> simp [RenderError.name] <;> decide
  have hlast : ∀ c ∈ e.name.toList.getLast?, Text.isBlankChar c = false := by
    cases e <;> simp [RenderError.name] <;> decide
  rw [Text.trimBlanks_eq_iff hhead hlast]
  constructor
  · intro h
    generalize hwanted : some name = wanted at h
    cases h with
    | refusal hcalled hbefore hafter =>
      obtain rfl := RenderError.called_iff.mp hcalled
      exact ⟨_, _, hbefore, hafter, Option.some.inj hwanted⟩
  · rintro ⟨before, after, hbefore, hafter, rfl⟩
    exact .refusal (RenderError.called_iff.mpr rfl) hbefore hafter

theorem Case.passes_iff_meets (c : Case) :
    c.passes = true ↔ Meets c.expected c.error c.outcome := by
  rw [passes, expectation]
  generalize c.outcome = outcome
  cases c.expected with
  | some text =>
    cases outcome with
    | error e => exact ⟨nofun, nofun⟩
    | ok sql =>
      rw [meets_text_iff]
      exact (decide_eq_true_iff (p := sql = Text.trimEndLines text)).trans eq_comm
  | none =>
    cases c.error with
    | none => exact ⟨nofun, nofun⟩
    | some name =>
      cases outcome with
      | ok sql => exact ⟨nofun, nofun⟩
      | error e =>
        rw [meets_refusal_iff]
        exact (decide_eq_true_iff (p := e.name = Text.trimBlanks name)).trans eq_comm

/-- What comes of a query under settings as written; where none are written the defaults apply. -/
def Query.outcome (q : Query) : Option Json → Except RenderError String
  | none => ({} : Settings).statement q
  | some v => do
    let s ← Settings.load v
    s.statement q

/-- Every query, with any settings but null, is written down as a case that reads back as that query
under those settings; the case passes exactly when it expects what comes of them. -/
theorem written_case_passes_iff (q : Query) (payload : Option Json)
    (hpayload : payload ≠ some .null) (description : String) (expected error : Option String) :
    let c : Case := ⟨description, payload, q.outline, expected, error⟩
    Case.ofJson c.toJson = .ok c ∧ c.query = q ∧ c.outcome = q.outcome payload ∧
      (c.passes = true ↔ Meets expected error (q.outcome payload)) := by
  intro c
  have houtcome : c.outcome = q.outcome payload := by
    rw [Case.outcome, Case.query, q.query_outline]
    cases payload <;> rfl
  refine ⟨Case.ofJson_toJson hpayload, q.query_outline, houtcome, ?_⟩
  rw [← houtcome]
  exact c.passes_iff_meets

/-- A refusal is met by its own name between blanks, and not by the name of another. A text that
ends in a line feed is not met by itself. -/
theorem written_case_passes_of_padded_name :
    let q : Query := { items := [⟨"a\n", some ""⟩] }
    let blank : Query := { items := [⟨"a", none⟩], groups := [⟨" ", none⟩] }
    let bad : Option Json := some (.obj [("indent", .str "--")])
    let named : Case := ⟨"", bad, q.outline, none, some " InvalidConfig\n\u2003"⟩
    let copied : Case := ⟨"", none, q.outline, some "SELECT DISTINCT a\n", none⟩
    let refused : Case := ⟨"", some (.obj []), blank.outline, none, some "EmptyFormula"⟩
    let empty (name : String) : Case := ⟨"", none, ({} : Query).outline, none, some name⟩
    bad ≠ some .null ∧ Case.ofJson named.toJson = .ok named ∧ named.passes = true ∧
    Case.ofJson copied.toJson = .ok copied ∧ copied.outcome = .ok "SELECT DISTINCT a\n" ∧
    copied.passes = false ∧ refused.passes = true ∧ (empty "EmptySelectList\t").passes = true ∧
    (empty "InvalidConfig").passes = false := by
  intro q blank bad named copied refused empty
  have hbad : bad ≠ some .null := by simp [bad]
  have hrefusal : q.outcome bad =
      .error (.invalidSettings "indent must be whitespace only, got \"--\"") := by rfl
  have hsql : q.outcome none = .ok "SELECT DISTINCT a\n" := by decide
  have hblank : blank.outcome (some (.obj [])) = .error (.emptyFormula .group 0) := by rfl
  have hempty : ({} : Query).outcome none = .error .emptySelectList := by rfl
  obtain ⟨hnamed, -, -, hpasses⟩ :=
    written_case_passes_iff q bad hbad "" none (some " InvalidConfig\n\u2003")
  obtain ⟨hcopied, -, houtcome, hfails⟩ :=
    written_case_passes_iff q none nofun "" (some "SELECT DISTINCT a\n") none
  obtain ⟨-, -, -, hpasses_blank⟩ :=
    written_case_passes_iff blank (some (.obj [])) (by simp) "" none (some "EmptyFormula")
  have hpasses_empty (name : String) : (empty name).passes = true ↔ _ :=
    (written_case_passes_iff {} none nofun "" none (some name)).2.2.2
  refine ⟨hbad, hnamed, hpasses.mpr ?_, hcopied, houtcome.trans hsql, ?_, hpasses_blank.mpr ?_,
    (hpasses_empty _).mpr ?_, ?_⟩
  · rw [hrefusal]
    exact meets_refusal_iff.mpr (by decide)
  · rw [Bool.eq_false_iff]
    intro h
    rw [hfails, hsql, meets_text_iff] at h
    exact absurd h (by decide)
  · rw [hblank]
    exact meets_refusal_iff.mpr (by decide)
  · rw [hempty]
    exact meets_refusal_iff.mpr (by decide)
  · rw [Bool.eq_false_iff]
    intro h
    rw [hpasses_empty, hempty, meets_refusal_iff] at h
    exact absurd h (by decide)

end SelectQuery
