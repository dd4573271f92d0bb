import SelectQuery.Proofs.Live.Provenance
import SelectQuery.Proofs.Query.Codec

/-!
# Where connectives come from

A connective comes from a token, from the want of one, from JSON, from an outline or from a session
that shows a predicate put in before. `Obtained` follows all these ways together with the token that
each starts from. Whatever the way, the connective is the one made of that token, which it gives
back as it is; so a free token is never one of the two names, and connectives are told apart by
their tokens alone. Main statement: `connectives_canonical`.
-/

namespace SelectQuery

open Session

/-- The token of a connective that has no name of its own. -/
def Connective.free? : Connective → Option String
  | .other token _ => some token
  | _ => none

/-- The token that an outline gives, or the one it stands for without. -/
def PredicateOutline.token : PredicateOutline → String
  | bare _ => "AND"
  | full _ token => token.getD "AND"

/-- The predicate that an entry is. -/
def Clause.predicate? : (c : Clause) → c.Entry → Option Predicate
  | filter, p | having, p => some p
  | _, _ => none

/-- The connective is obtained from the token. -/
inductive Obtained : String → Connective → Prop where
  | token (t : String) : Obtained t (.ofToken t)
  | absent (formula : String) : Obtained "AND" (Predicate.of formula none).connective
  | given {t : String} {c : Connective} (formula : String) (h : Obtained t c) :
      Obtained t (Predicate.of formula (some c)).connective
  | json {v : Json} {t : String} {c : Connective} (ht : v.IsText t)
      (hread : Connective.ofJson v = .ok c) : Obtained t c
  | jsonPredicate {v w : Json} {t : String} {p : Predicate}
      (hw : v.given? Predicate.shape.keys "operator" = some w) (ht : w.IsText t)
      (hread : Predicate.ofJson v = .ok p) : Obtained t p.connective
  | outline (o : PredicateOutline) : Obtained o.token o.predicate.connective
  /-- An outline in either format, which gives the token as its `op`. -/
  | decoded {ν : Type} [Format ν] {v w : ν} {fields : List (String × ν)} {t : String}
      {o : PredicateOutline}
      (hlayer : Format.layer v = .record (fields.map fun f => (.text f.1, f.2)))
      (hnodup : (fields.map (·.1)).Nodup) (hw : fields.lookup "op" = some w)
      (ht : Decoder.text w = .ok t) (hread : PredicateOutline.decode v = .ok o) :
      Obtained t o.predicate.connective
  /-- The predicates that were put in before had their connectives from the tokens `tokens`. -/
  | shown {steps : List Step} {tokens : Predicate → String} {a : Answer}
      {x : Sigma Clause.Entry} {p : Predicate}
      (hput : ∀ t ∈ start.madeAll steps, ∀ y ∈ t.puts, ∀ q ∈ y.1.predicate? y.2,
        Obtained (tokens q) q.connective)
      (ha : a ∈ Answer.givenAll (answers steps)) (hx : x ∈ a.shown)
      (hp : p ∈ x.1.predicate? x.2) : Obtained (tokens p) p.connective

/-! ### Each way gives the token back -/

theorem Connective.token_of_ofJson {v : Json} {t : String} {c : Connective} (ht : v.IsText t)
    (hread : ofJson v = .ok c) : c.token = t := by
  have hform : v = .str c.token := (takes.reads v c).mp hread
  exact Json.str.inj (hform.symm.trans ht)

theorem Predicate.token_of_ofJson {v w : Json} {t : String} {p : Predicate}
    (hw : v.given? shape.keys "operator" = some w) (ht : w.IsText t)
    (hread : ofJson v = .ok p) : p.connective.token = t := by
  obtain rfl : w = .str t := ht
  have hform : p.Form v := (takes.reads v p).mp hread
  cases hform with
  | @object fields u formula c hformula hu hgiven =>
    rw [Json.given?] at hw
    rw [hw] at hgiven
    exact (Json.str.inj hgiven).symm
  | @list u u' formula c hu hu' =>
    obtain rfl : u' = .str t := Option.some.inj hw
    exact (Json.str.inj hu').symm

theorem PredicateOutline.token_predicate (o : PredicateOutline) :
    o.predicate.connective.token = o.token := by
  cases o with
  | bare formula => rfl
  | full formula token =>
    cases token with
    | none => rfl
    | some t => exact Connective.token_ofToken t

theorem Decoder.optional_text_of_text {ν : Type} [Format ν] {w : ν} {t : String}
    (h : text w = .ok t) : optional text w = .ok (some t) := by
  have hsome : some <$> text w = .ok (some t) := by
    rw [h]
    rfl
  rw [text] at h
  rw [optional]
  split
  · next hnull =>
    rw [hnull] at h
    cases h
  · exact hsome

theorem PredicateOutline.token_of_decode {ν : Type} [Format ν] {v w : ν}
    {fields : List (String × ν)} {t : String} {o : PredicateOutline}
    (hlayer : Format.layer v = .record (fields.map fun f => (.text f.1, f.2)))
    (hnodup : (fields.map (·.1)).Nodup) (hw : fields.lookup "op" = some w)
    (ht : Decoder.text w = .ok t) (hread : decode v = .ok o) :
    o.predicate.connective.token = t := by
  obtain ⟨x, hx, rfl⟩ := (Decoder.shorthand_eq_ok_iff_of_layer hlayer hnodup).mp hread
  rw [Decoder.record, hlayer] at hx
  have hlaid : (formulaWith "PredicateSpec" "op" : RecordShape ν (String × Option String)).Laid
      (formulaSlots "op") := laid_formulaWith "PredicateSpec" (by decide)
  obtain ⟨-, hfilled⟩ := (hlaid.ofEntries_eq_ok_iff hnodup x).mp hx
  obtain ⟨hop, -⟩ := List.forall_mem_singleton.mp (List.forall_mem_cons.mp hfilled).2
  change Slot.Filled _ _ x (fields.lookup "op") at hop
  rw [hw] at hop
  have hsame : Except.ok (some t) = .ok x.2 := (Decoder.optional_text_of_text ht).symm.trans hop
  rw [← Except.ok.inj hsame]
  exact Connective.token_ofToken t

theorem Obtained.token_eq {t : String} {c : Connective} (h : Obtained t c) : c.token = t := by
  induction h with
  | token t => exact Connective.token_ofToken t
  | absent formula => rfl
  | given formula h ih => exact ih
  | json ht hread => exact Connective.token_of_ofJson ht hread
  | jsonPredicate hw ht hread => exact Predicate.token_of_ofJson hw ht hread
  | outline o => exact o.token_predicate
  | decoded hlayer hnodup hw ht hread =>
    exact PredicateOutline.token_of_decode hlayer hnodup hw ht hread
  | shown hput ha hx hp ih =>
    obtain ⟨u, hu, hmem⟩ := put_of_shown ha hx
    exact ih u hu _ hmem _ hp

/-! ### What a connective gives back -/

/-- Which connective has the token, and where it gives the token back. -/
structure Connective.Carries (c : Connective) (t : String) : Prop where
  and_iff : c = .and ↔ t = "AND"
  or_iff : c = .or ↔ t = "OR"
  free_iff : ∀ u, c.free? = some u ↔ u = t ∧ t ≠ "AND" ∧ t ≠ "OR"
  token : c.token = t
  toJson : c.toJson = .str t
  text : Json.ofText? c.toJson.text = some (.str t)
  ofJson : ofJson (.str t) = .ok c
  joined : ∀ (s : Settings) formula, s.joinedPredicate ⟨formula, c⟩ =
    s.predicateSeparator ++ t ++ " " ++ s.predicateTerm ⟨formula, c⟩
  noted : ∀ clause, (LogRecord.connectiveIgnored clause c).fields =
    [("clause", .str clause.keyword), ("operator", .str t)]

theorem Connective.free?_eq_some_iff {c : Connective} {u : String} :
    c.free? = some u ↔ u = c.token ∧ c.token ≠ "AND" ∧ c.token ≠ "OR" := by
  cases c with
  | and => exact iff_of_false nofun fun h => h.2.1 rfl
  | or => exact iff_of_false nofun fun h => h.2.2 rfl
  | other token free =>
    constructor
    · intro h
      exact ⟨(Option.some.inj h).symm, free⟩
    · rintro ⟨rfl, -⟩
      rfl

theorem Connective.carries_token (c : Connective) : c.Carries c.token where
  and_iff := (token_eq_iff (t := "AND")).symm
  or_iff := (token_eq_iff (t := "OR")).symm
  free_iff _ := free?_eq_some_iff
  token := rfl
  toJson := rfl
  text := Json.ofText?_text (.str c.token)
  ofJson := c.ofJson_toJson
  joined _ _ := rfl
  noted _ := rfl

/-- Connectives that can be obtained, and the tokens that they are obtained from. -/
structure ConnectivesCanonical : Prop where
  /-- All ways from a token lead to one connective. -/
  obtained_iff : ∀ t c, Obtained t c ↔ c = .ofToken t
  carries : ∀ t c, Obtained t c → c.Carries t
  eq_iff : ∀ t u c d, Obtained t c → Obtained u d → (c = d ↔ c.token = d.token)

theorem connectives_canonical : ConnectivesCanonical where
  obtained_iff t c := by
    constructor
    · intro h
      exact Connective.token_eq_iff.mp h.token_eq
    · rintro rfl
      exact .token t
  carries t c h := by
    obtain rfl := h.token_eq
    exact c.carries_token
  eq_iff t u c d _ _ := by
    rw [Connective.token_eq_iff, Connective.ofToken_token]

/-- A token read from JSON comes back from a view as it was written. Letter case counts, so it is
not the OR of an outline. -/
theorem connectives_canonical_of_lower_case :
    let v : Json := .obj [("operator", .str "or"), ("formula", .str "a")]
    let p : Predicate := ⟨"a", .other "or" (by decide)⟩
    let steps : List Step := [.append "q" .having p, .askView (.fresh "q" .having) .first]
    let o : PredicateOutline := .full "b" (some "OR")
    Predicate.ofJson v = .ok p ∧ answers steps = [.done, .entry (some ⟨.having, p⟩)] ∧
    Obtained "or" p.connective ∧ p.connective.Carries "or" ∧
    Obtained "OR" o.predicate.connective ∧ p.connective ≠ o.predicate.connective := by
  intro v p steps o
  have hread : Predicate.ofJson v = .ok p := rfl
  have hanswers : answers steps = [.done, .entry (some ⟨.having, p⟩)] := rfl
  have hjson : Obtained "or" p.connective := .jsonPredicate (w := .str "or") rfl rfl hread
  have hshown : Obtained "or" p.connective := by
    refine @Obtained.shown steps (fun _ => "or") (.entry (some ⟨.having, p⟩)) ⟨.having, p⟩ p ?_ ?_
      (List.mem_singleton_self _) rfl
    · have hmade : start.madeAll steps = steps := rfl
      rw [hmade]
      simp [steps, Step.puts, Clause.predicate?, hjson]
    · rw [hanswers]
      simp [Answer.givenAll, Answer.given]
  have houtline : Obtained "OR" o.predicate.connective := .outline o
  refine ⟨hread, hanswers, hshown, connectives_canonical.carries _ _ hshown, houtline, ?_⟩
  rw [Ne, connectives_canonical.eq_iff _ _ _ _ hshown houtline]
  decide

end SelectQuery
