import SelectQuery.Proofs.Decode.Record
import SelectQuery.Proofs.Render.Refusal
import SelectQuery.Render.Load

/-!
# Settings and their written form

Settings come into use in two ways: built and checked when a statement is written, or read from JSON
and checked when they are loaded. Reading gives back what was written (`ofJson_toJson`) and both
ways make the same check, so they end alike. Main statement: `load_toJson_agrees`.
-/

namespace SelectQuery

theorem AliasStyle.ofJson_toJson (a : AliasStyle) : ofJson a.toJson = .ok a := by
  cases a <;> rfl

namespace Settings

variable {s : Settings}

theorem layer_toJson (s : Settings) : s.toJson.layer = .record [
    (.text "indent", .str s.indent),
    (.text "parenthesizePredicates", .bool s.parenthesize),
    (.text "pretty", .bool s.pretty),
    (.text "rejectEmptyFormulas", .bool s.rejectBlank),
    (.text "tableAlias", s.aliasStyle.toJson)] := by
  rfl

theorem ofJson_toJson (s : Settings) : ofJson s.toJson = .ok s := by
  have hstyle : shape.entry (.text "tableAlias", s.aliasStyle.toJson) =
      .ok fun t => { t with aliasStyle := s.aliasStyle } :=
    RecordShape.entry_eq_ok rfl s.aliasStyle.ofJson_toJson rfl
  exact Decoder.record_eq_ok s.layer_toJson
    (.cons rfl (.cons rfl (.cons rfl (.cons rfl (.cons hstyle .nil))))) rfl

theorem load_eq_ok_iff {v : Json} {s : Settings} :
    load v = .ok s ↔ ofJson v = .ok s ∧ s.validate = .ok () := by
  rw [load]
  cases ofJson v with
  | error e => simp
  | ok t =>
    have hchecked : (do t.validate; return t) = Except.ok s ↔ t.validate = .ok () ∧ t = s := by
      cases t.validate <;> simp [bind, Except.bind, pure, Except.pure]
    simp only [hchecked, Except.ok.injEq]
    constructor
    · rintro ⟨ht, rfl⟩
      exact ⟨rfl, ht⟩
    · rintro ⟨rfl, ht⟩
      exact ⟨ht, rfl⟩

theorem load_toJson (s : Settings) : load s.toJson = s.validate.map fun _ => s := by
  rw [load, ofJson_toJson]
  show (do s.validate; return s) = s.validate.map fun _ => s
  cases s.validate <;> rfl

theorem statement_of_validate_eq_error {e : RenderError} (h : s.validate = .error e) (q : Query) :
    s.statement q = .error e := by
  rw [statement_eq, h]
  rfl

/-- Once the settings are checked, a refusal is about the query. -/
theorem statement_ne_invalidSettings (h : s.validate = .ok ()) (q : Query) (reason : String) :
    s.statement q ≠ .error (.invalidSettings reason) := by
  rw [statement_of_validate h]
  split
  · simp
  · cases hcheck : s.checkClauses q Clause.all with
    | ok u => simp [Except.map]
    | error e =>
      obtain ⟨-, c, i, rfl, -⟩ := (s.checkClauses_all_eq_error_iff q e).mp hcheck
      simp [Except.map]

/-- Settings that were written down and loaded write the same statement, or fail in the same way, as
they do themselves; they load exactly when they pass the check, and as they were. Whatever loads
passes the check and loads again as it is, and no query is refused for it. -/
theorem load_toJson_agrees (s : Settings) (q : Query) :
    (do let loaded ← load s.toJson; loaded.statement q) = s.statement q ∧
    (∀ loaded, load s.toJson = .ok loaded ↔ s.validate = .ok () ∧ loaded = s) ∧
    ∀ v loaded, load v = .ok loaded →
      loaded.validate = .ok () ∧ load loaded.toJson = .ok loaded ∧
      ∀ q reason, loaded.statement q ≠ .error (.invalidSettings reason) := by
  refine ⟨?_, fun loaded => ?_, fun v loaded h => ?_⟩
  · rw [load_toJson]
    cases h : s.validate with
    | error e => exact (statement_of_validate_eq_error h q).symm
    | ok u => rfl
  · rw [load_eq_ok_iff, ofJson_toJson, Except.ok.injEq]
    constructor
    · rintro ⟨rfl, h⟩
      exact ⟨h, rfl⟩
    · rintro ⟨h, rfl⟩
      exact ⟨rfl, h⟩
  · obtain ⟨-, hvalidate⟩ := load_eq_ok_iff.mp h
    exact ⟨hvalidate, load_eq_ok_iff.mpr ⟨loaded.ofJson_toJson, hvalidate⟩,
      statement_ne_invalidSettings hvalidate⟩

/-- An indent of seventeen tabs is refused both ways; a payload that names one field loads, with the
defaults in the others. -/
theorem load_toJson_of_one_field :
    let s : Settings := { indent := "\t\t\t\t\t\t\t\t\t\t\t\t\t\t\t\t\t" }
    let v : Json := .obj [("tableAlias", .obj [("as", .null)])]
    let q : Query := { items := [⟨"a", none⟩] }
    (do let loaded ← load s.toJson; loaded.statement q) =
      .error (.invalidSettings "indent cannot exceed 16 characters") ∧
    load v = .ok { aliasStyle := .as } ∧
    load ({ aliasStyle := .as } : Settings).toJson = .ok { aliasStyle := .as } := by
  intro s v q
  have hv : load v = .ok { aliasStyle := .as } := by rfl
  have hs : s.statement q = .error (.invalidSettings "indent cannot exceed 16 characters") := by
    decide
  obtain ⟨hsame, -, hloaded⟩ := load_toJson_agrees s q
  exact ⟨hsame.trans hs, hv, (hloaded v _ hv).2.1⟩

end Settings

end SelectQuery
