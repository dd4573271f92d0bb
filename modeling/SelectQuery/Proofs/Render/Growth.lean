import SelectQuery.Proofs.Render.Noted

/-!
# Clauses that grow

A clause is written entry by entry. One more entry at the end of its list is checked under its place
and adds its part to the text (`rowText_concat`); so entries after others add their parts one after
the other, the first that is refused is named by its place in the whole list, and a refusal that was
there before stays (`Grows`). Settings that could not be used for a statement count as well, and the
clause that WHERE and HAVING are written for may be any. Main statement: `clauses_grow`.
-/

namespace SelectQuery.Settings

/-! ### Entries after entries -/

section Grows

variable {α β : Type}

/-- How a clause that is written from a list of entries goes on with more of them: `part` is what an
entry adds to the text, and `wrap` makes what is written of a text. -/
structure Grows (clause : Clause) (rejects : α → Bool) (part : α → String) (wrap : String → β)
    (write : List α → Except RenderError β) : Prop where
  /-- Entries that are accepted add their parts in order. -/
  accepted : ∀ xs ys r, xs ≠ [] → write xs = .ok r → (∀ y ∈ ys, rejects y = false) →
    ∃ text, r = wrap text ∧ write (xs ++ ys) = .ok (wrap (text ++ String.join (ys.map part)))
  /-- The first of them that is not is named by its place in the whole list. -/
  refused : ∀ xs ys r i, xs ≠ [] → write xs = .ok r → (hi : i < ys.length) →
    rejects ys[i] = true → (∀ j, (hj : j < i) → rejects ys[j] = false) →
    write (xs ++ ys) = .error (.emptyFormula clause (xs.length + i))
  /-- What was refused already is refused as it was. -/
  failed : ∀ xs ys e, xs ≠ [] → write xs = .error e → write (xs ++ ys) = .error e

variable {clause : Clause} {rejects : α → Bool} {part : α → String}
  {text : List α → Except RenderError String}

/-- What one more entry does to the text of those before it. -/
def GrowsByOne (clause : Clause) (rejects : α → Bool) (part : α → String)
    (text : List α → Except RenderError String) : Prop :=
  ∀ xs y, xs ≠ [] → text (xs ++ [y]) = do
    let t ← text xs
    if rejects y then .error (.emptyFormula clause xs.length) else .ok (t ++ part y)

namespace GrowsByOne

variable (h : GrowsByOne clause rejects part text) {xs : List α} (hxs : xs ≠ []) (ys : List α)

include h hxs

theorem append_of_error {e : RenderError} (hx : text xs = .error e) :
    text (xs ++ ys) = .error e := by
  induction ys generalizing xs with
  | nil => rwa [List.append_nil]
  | cons y ys ih =>
    have hone : text (xs ++ [y]) = .error e := by
      rw [h xs y hxs, hx]
      rfl
    rw [List.append_cons]
    exact ih (by simp) hone

theorem append_of_accepted {t : String} (hx : text xs = .ok t)
    (hys : ∀ y ∈ ys, rejects y = false) :
    text (xs ++ ys) = .ok (t ++ String.join (ys.map part)) := by
  induction ys generalizing xs t with
  | nil => simpa using hx
  | cons y ys ih =>
    obtain ⟨hy, hys⟩ := List.forall_mem_cons.mp hys
    have hone : text (xs ++ [y]) = .ok (t ++ part y) := by
      rw [h xs y hxs, hx, hy]
      rfl
    rw [List.append_cons, ih (by simp) hone hys, List.map_cons, String.join_cons,
      String.append_assoc]

theorem append_of_refused {t : String} (hx : text xs = .ok t) {i : Nat} (hi : i < ys.length)
    (hat : rejects ys[i] = true) (hbefore : ∀ j, (hj : j < i) → rejects ys[j] = false) :
    text (xs ++ ys) = .error (.emptyFormula clause (xs.length + i)) := by
  induction ys generalizing xs t i with
  | nil => exact absurd hi (Nat.not_lt_zero i)
  | cons y ys ih =>
    rw [List.append_cons]
    cases i with
    | zero =>
      have hone : text (xs ++ [y]) = .error (.emptyFormula clause xs.length) := by
        rw [h xs y hxs, hx]
        exact if_pos hat
      exact h.append_of_error (by simp) ys hone
    | succ i =>
      have hy : rejects y = false := hbefore 0 (Nat.zero_lt_succ i)
      have hone : text (xs ++ [y]) = .ok (t ++ part y) := by
        rw [h xs y hxs, hx, hy]
        rfl
      have hplace : (xs ++ [y]).length + i = xs.length + (i + 1) := by
        rw [List.length_append, List.length_singleton]
        omega
      rw [← hplace]
      exact ih (by simp) hone (Nat.lt_of_succ_lt_succ hi) hat
        fun j hj => hbefore (j + 1) (Nat.succ_lt_succ hj)

end GrowsByOne

/-- A clause of which the text is made entry by entry. -/
theorem GrowsByOne.grows {wrap : String → β} {write : List α → Except RenderError β}
    (h : GrowsByOne clause rejects part text)
    (hwrite : ∀ xs, xs ≠ [] → write xs = wrap <$> text xs) :
    Grows clause rejects part wrap write where
  accepted xs ys r hxs hx hys := by
    rw [hwrite xs hxs] at hx
    cases ht : text xs with
    | error e =>
      rw [ht] at hx
      cases hx
    | ok t =>
      rw [ht] at hx
      rw [hwrite (xs ++ ys) (by simp [hxs]), h.append_of_accepted hxs ys ht hys]
      exact ⟨t, (Except.ok.inj hx).symm, rfl⟩
  refused xs ys r i hxs hx hi hat hbefore := by
    rw [hwrite xs hxs] at hx
    cases ht : text xs with
    | error e =>
      rw [ht] at hx
      cases hx
    | ok t =>
      rw [hwrite (xs ++ ys) (by simp [hxs]), h.append_of_refused hxs ys ht hi hat hbefore]
      rfl
  failed xs ys e hxs hx := by
    rw [hwrite xs hxs] at hx
    cases ht : text xs with
    | error e' =>
      rw [ht] at hx
      obtain rfl : e' = e := Except.error.inj hx
      rw [hwrite (xs ++ ys) (by simp [hxs]), h.append_of_error hxs ys ht]
      rfl
    | ok t =>
      rw [ht] at hx
      cases hx

end Grows

/-! ### Rows of terms -/

variable (s : Settings)

/-- One more formula is checked after the others, under its place. -/
theorem checkFormulas_concat (c : Clause) (fs : List String) (f : String) :
    s.checkFormulas c (fs ++ [f]) =
      (s.checkFormulas c fs >>= fun _ => s.checkFormula c fs.length f) := by
  simp only [checkFormulas, checkFormula, List.findIdx?_append]
  cases fs.findIdx? s.rejects with
  | some i => rfl
  | none => cases h : s.rejects f <;> simp [List.findIdx?_cons, h, bind, Except.bind]

/-- The text of a clause with entries: its heading and the row of its terms. -/
def rowText {α : Type} (c : Clause) (heading sep : String) (formula : α → String)
    (terms : List α → List String) (xs : List α) : Except RenderError String := do
  s.checkFormulas c (xs.map formula)
  return heading ++ sep.intercalate (terms xs)

theorem rowText_concat {α : Type} {c : Clause} {heading sep : String} {formula term : α → String}
    {terms : List α → List String} (hne : ∀ xs, xs ≠ [] → terms xs ≠ [])
    (hterms : ∀ xs y, xs ≠ [] → terms (xs ++ [y]) = terms xs ++ [term y]) :
    GrowsByOne c (fun x => s.rejects (formula x)) (fun y => sep ++ term y)
      (s.rowText c heading sep formula terms) := by
  intro xs y hxs
  have hrow : heading ++ sep.intercalate (terms (xs ++ [y])) =
      heading ++ sep.intercalate (terms xs) ++ (sep ++ term y) := by
    rw [hterms xs y hxs, String.intercalate_append_of_ne_nil (hne xs hxs) (by simp),
      String.intercalate_singleton]
    simp only [String.append_assoc]
  rw [rowText, rowText, hrow, List.map_append, List.map_singleton, checkFormulas_concat,
    List.length_map]
  cases s.checkFormulas c (xs.map formula) with
  | error e => rfl
  | ok u =>
    by_cases hy : s.rejects (formula y) = true
    · simp only [checkFormula, hy, if_true]
      rfl
    · simp only [checkFormula, hy]
      rfl

/-- Terms of their own, each made of one entry. -/
theorem rowText_concat_map {α : Type} {c : Clause} {heading sep : String}
    {formula term : α → String} :
    GrowsByOne c (fun x => s.rejects (formula x)) (fun y => sep ++ term y)
      (s.rowText c heading sep formula (List.map term)) :=
  s.rowText_concat (fun _ hxs => by simpa using hxs)
    fun _ _ _ => List.map_append

/-! ### The clauses -/

theorem selectClause_eq_rowText (distinct : Bool) {items : List Item} (h : items ≠ []) :
    s.selectClause distinct items = id <$> s.rowText .select
      (if distinct then "SELECT DISTINCT " else "SELECT ") ", " Item.formula
      (List.map fun i => i.formula ++ aliasPart " AS " i.aliasName) items := by
  have hterms : items.map itemTerm =
      items.map fun i => i.formula ++ aliasPart " AS " i.aliasName :=
    List.map_congr_left fun i _ => withAlias_eq ..
  rw [id_map, selectClause, if_neg (by simpa using h), hterms]
  rfl

theorem commaClause_eq_rowText {α : Type} (c : Clause) (formula term : α → String)
    {entries : List α} (h : entries ≠ []) :
    s.commaClause c formula term entries =
      some <$> s.rowText c (c.keyword ++ " ") ", " formula (List.map term) entries := by
  rw [commaClause, if_neg (by simpa using h), rowText]
  cases s.checkFormulas c (entries.map formula) <;> rfl

theorem predicateClause_eq_rowText (c : Clause) {ps : List Predicate} (h : ps ≠ []) :
    (s.predicateClause c ps).result = some <$> s.rowText c (c.keyword ++ " ") s.predicateSeparator
      Predicate.formula s.predicateTerms ps := by
  rw [result_predicateClause, if_neg (by simpa using h), rowText]
  cases s.checkFormulas c (ps.map (·.formula)) <;> rfl

theorem predicateTerms_concat {ps : List Predicate} (h : ps ≠ []) (p : Predicate) :
    s.predicateTerms (ps ++ [p]) =
      s.predicateTerms ps ++ [p.connective.token ++ " " ++ s.bodyText p] := by
  obtain ⟨first, rest, rfl⟩ := List.exists_cons_of_ne_nil h
  simp [predicateTerms]

/-- All clauses go on alike with the entries that come after others, and what is noted of a clause
is noted of its first entry. -/
structure ClausesGrow (s : Settings) : Prop where
  select : ∀ distinct, Grows .select (fun i => s.rejects i.formula)
    (fun i => ", " ++ (i.formula ++ aliasPart " AS " i.aliasName)) id (s.selectClause distinct)
  source : Grows .source (fun t => s.rejects t.table)
    (fun t => ", " ++ (t.table ++ aliasPart s.sourceLink t.aliasName)) some s.sourceClause
  predicate : ∀ c, Grows c (fun p => s.rejects p.formula)
    (fun p => s.predicateSeparator ++ (p.connective.token ++ " " ++ s.bodyText p)) some
    fun ps => (s.predicateClause c ps).result
  group : Grows .group (fun i => s.rejects i.formula) (fun i => ", " ++ i.formula) some
    s.groupClause
  order : Grows .order (fun k => s.rejects k.item.formula)
    (fun k => ", " ++ (k.item.formula ++ directionPart k.direction)) some s.orderClause
  log : ∀ c ps qs, ps ≠ [] → (s.predicateClause c (ps ++ qs)).log = (s.predicateClause c ps).log

theorem clauses_grow (s : Settings) : s.ClausesGrow where
  select distinct := s.rowText_concat_map.grows fun _ => s.selectClause_eq_rowText distinct
  source := by
    have hterm : s.sourceTerm = fun t => t.table ++ aliasPart s.sourceLink t.aliasName :=
      funext fun t => withAlias_eq ..
    show Grows _ _ _ _ (s.commaClause .source Source.table s.sourceTerm)
    rw [hterm]
    exact s.rowText_concat_map.grows fun _ => s.commaClause_eq_rowText _ _ _
  predicate c := by
    refine (s.rowText_concat ?_ ?_).grows fun _ =>
      s.predicateClause_eq_rowText c
    · intro ps hps
      obtain ⟨first, rest, rfl⟩ := List.exists_cons_of_ne_nil hps
      exact List.cons_ne_nil _ _
    · intro ps p hps
      exact s.predicateTerms_concat hps p
  group := s.rowText_concat_map.grows fun _ => s.commaClause_eq_rowText _ _ _
  order := by
    have hterm : sortTerm = fun k => k.item.formula ++ directionPart k.direction :=
      funext sortTerm_eq
    show Grows _ _ _ _ (s.commaClause .order (·.item.formula) sortTerm)
    rw [hterm]
    exact s.rowText_concat_map.grows fun _ => s.commaClause_eq_rowText _ _ _
  log c ps qs hps := by
    obtain ⟨first, rest, rfl⟩ := List.exists_cons_of_ne_nil hps
    rw [log_predicateClause, log_predicateClause]
    rfl

/-- Settings that could not be used for a statement, and predicates of a clause that has none. The
blank formula is the third of the whole list. -/
theorem clauses_grow_of_marked_lines :
    let s : Settings := { indent := "--" }
    let ps : List Predicate := [⟨"p", .or⟩]
    let qs : List Predicate := [⟨"q", .or⟩, ⟨"r", .and⟩]
    (s.predicateClause .order ps).result = .ok (some "ORDER BY (p)") ∧
    (s.predicateClause .order (ps ++ qs)).result =
      .ok (some ("ORDER BY (p)" ++ "\n--OR (q)\n--AND (r)")) ∧
    (s.predicateClause .order (ps ++ qs)).log = [.connectiveIgnored .order .or] ∧
    s.groupClause [⟨"a", none⟩] = .ok (some "GROUP BY a") ∧
    s.groupClause ([⟨"a", none⟩] ++ [⟨"b", none⟩, ⟨" ", none⟩, ⟨"", none⟩]) =
      .error (.emptyFormula .group 2) ∧
    s.selectClause true [⟨"", none⟩] = .error (.emptyFormula .select 0) ∧
    s.selectClause true ([⟨"", none⟩] ++ [⟨"a", none⟩]) = .error (.emptyFormula .select 0) := by
  intro s ps qs
  have hps : (s.predicateClause .order ps).result = .ok (some "ORDER BY (p)") := rfl
  have hgroup : s.groupClause [⟨"a", none⟩] = .ok (some "GROUP BY a") := rfl
  have hselect : s.selectClause true [⟨"", none⟩] = .error (.emptyFormula .select 0) := rfl
  have hgrow := clauses_grow s
  obtain ⟨text, htext, hqs⟩ := (hgrow.predicate .order).accepted ps qs _ nofun hps (by decide)
  obtain rfl := Option.some.inj htext
  have hblank : s.groupClause ([⟨"a", none⟩] ++ [⟨"b", none⟩, ⟨" ", none⟩, ⟨"", none⟩]) =
      .error (.emptyFormula .group 2) := by
    refine hgrow.group.refused _ _ _ 1 nofun hgroup (by decide) rfl fun j hj => ?_
    obtain rfl : j = 0 := Nat.lt_one_iff.mp hj
    show s.rejects "b" = false
    decide
  exact ⟨hps, hqs, hgrow.log .order ps qs nofun, hgroup, hblank, hselect,
    (hgrow.select true).failed _ _ _ nofun hselect⟩

end SelectQuery.Settings
