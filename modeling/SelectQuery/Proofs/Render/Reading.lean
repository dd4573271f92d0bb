import SelectQuery.Proofs.Render.Erasure
import SelectQuery.Proofs.Render.Lines
import SelectQuery.Proofs.Text.Delimited

/-!
# A query read off its statement

The statement of a query shows nothing but the query as erased. When no text of the query can be
taken for what stands between the texts, it shows all of that: `statement_determines_erase`. The
lines of a statement give the rows of its clauses, a row its terms, and a term the parts of an
entry.
-/

namespace SelectQuery

namespace Query

def shownAliases (q : Query) : List String :=
  q.items.filterMap (·.aliasName) ++ q.sources.filterMap (·.aliasName)

/-- The tokens that a statement shows: those of predicates that something stands before. -/
def shownTokens (q : Query) : List String :=
  (q.filters.tail ++ q.havings.tail).map (·.connective.token)

/-- The texts of a query that its statement is put together from. -/
def shownTexts (q : Query) : List String :=
  Clause.all.flatMap q.formulas ++ (q.shownAliases ++ q.shownTokens)

theorem forall_mem_shownTexts {q : Query} {P : String → Prop} : (∀ x ∈ q.shownTexts, P x) ↔
    (∀ c, ∀ e ∈ q.entries c, P (c.formula e)) ∧
    (∀ i ∈ q.items, ∀ a ∈ i.aliasName, P a) ∧ (∀ t ∈ q.sources, ∀ a ∈ t.aliasName, P a) ∧
    (∀ p ∈ q.filters.tail, P p.connective.token) ∧ ∀ p ∈ q.havings.tail, P p.connective.token := by
  simp only [shownTexts, shownAliases, shownTokens, formulas, List.forall_mem_append,
    List.forall_mem_flatMap, List.forall_mem_map, List.forall_mem_filterMap, List.map_append,
    Clause.mem_all, true_imp_iff, Option.mem_def, and_assoc]

/-- No text of a query can be taken for what a statement has between two texts. -/
structure Legible (q : Query) : Prop where
  newline_formula : ∀ c, ∀ f ∈ q.formulas c, '\n' ∉ f.toList
  newline_alias : ∀ a ∈ q.shownAliases, '\n' ∉ a.toList
  newline_token : ∀ t ∈ q.shownTokens, '\n' ∉ t.toList
  comma_formula : ∀ c, c ≠ .filter → c ≠ .having → ∀ f ∈ q.formulas c, ',' ∉ f.toList
  comma_alias : ∀ a ∈ q.shownAliases, ',' ∉ a.toList
  as_item : ∀ i ∈ q.items, ¬ " AS ".toList <:+: i.formula.toList
  distinct_item : ∀ i ∈ q.items.head?, ¬ "DISTINCT".toList <+: i.formula.toList
  space_source : ∀ t ∈ q.sources, ' ' ∉ t.table.toList
  space_alias : ∀ a ∈ q.shownAliases, ' ' ∉ a.toList
  bracket_token : ∀ t ∈ q.shownTokens, ¬ " (".toList <:+: t.toList

end Query

namespace Settings

/-! ### From a term to the parts of an entry -/

theorem toList_aliasPart (link : String) (aliasName : Option String) :
    (aliasPart link aliasName).toList =
      (eraseAlias aliasName).elim [] fun a => link.toList ++ a.toList := by
  cases aliasName with
  | none => rfl
  | some a => by_cases ha : a = "" <;> simp [aliasPart, eraseAlias, ha]

/-- A text and its alias, when the text does not hold the link and the alias no space. -/
theorem append_aliasPart_inj {link f f' : String} {a a' : Option String} {start : List Char}
    (hlink : link.toList = start ++ [' ']) (hf : ¬ link.toList <:+: f.toList)
    (hf' : ¬ link.toList <:+: f'.toList) (ha : ∀ x ∈ a, ' ' ∉ x.toList)
    (ha' : ∀ x ∈ a', ' ' ∉ x.toList) (h : f ++ aliasPart link a = f' ++ aliasPart link a') :
    f = f' ∧ eraseAlias a = eraseAlias a' := by
  have hspace : ∀ {a : Option String}, (∀ x ∈ a, ' ' ∉ x.toList) →
      ∀ x, eraseAlias a = some x → ' ' ∉ x.toList := by
    intro a ha x hx
    cases a with
    | none => cases hx
    | some y =>
      rw [eraseAlias] at hx
      split at hx
      · cases hx
      · exact ha x hx
  have hchars := congrArg String.toList h
  rw [String.toList_append, String.toList_append, toList_aliasPart, toList_aliasPart] at hchars
  cases he : eraseAlias a with
  | none =>
    cases he' : eraseAlias a' with
    | none =>
      rw [he, he', Option.elim_none, List.append_nil, List.append_nil] at hchars
      exact ⟨String.toList_inj.mp hchars, rfl⟩
    | some x' =>
      rw [he, he', Option.elim_none, Option.elim_some, List.append_nil] at hchars
      exact absurd ⟨f'.toList, x'.toList, by rw [hchars, List.append_assoc]⟩ hf
  | some x =>
    cases he' : eraseAlias a' with
    | none =>
      rw [he, he', Option.elim_none, Option.elim_some, List.append_nil] at hchars
      exact absurd ⟨f.toList, x.toList, by rw [← hchars, List.append_assoc]⟩ hf'
    | some x' =>
      rw [he, he', Option.elim_some, Option.elim_some, hlink] at hchars
      obtain ⟨hf, hx⟩ := append_link_inj start (hspace ha x he) (hspace ha' x' he')
        (by simpa using hchars)
      exact ⟨String.toList_inj.mp hf, congrArg some (String.toList_inj.mp hx)⟩

theorem directionPart_inj {f f' : String} {d d' : Direction}
    (h : f ++ directionPart d = f' ++ directionPart d') : f = f' ∧ d = d' := by
  have hback := congrArg (fun t => t.toList.reverse) h
  cases d <;> cases d' <;> simp [directionPart] at hback
  · exact ⟨String.toList_inj.mp hback, rfl⟩
  · exact ⟨String.toList_inj.mp hback, rfl⟩

variable {s : Settings} {q₁ q₂ : Query}

theorem bodyText_inj (hparen : s.parenthesize = true) {p p' : Predicate}
    (h : s.bodyText p = s.bodyText p') : p.formula = p'.formula := by
  rw [bodyText, bodyText, if_pos hparen, if_pos hparen, String.append_left_inj,
    String.append_right_inj] at h
  exact h

theorem joined_inj (hparen : s.parenthesize = true) {p p' : Predicate}
    (hp : ¬ " (".toList <:+: p.connective.token.toList)
    (hp' : ¬ " (".toList <:+: p'.connective.token.toList)
    (h : p.connective.token ++ " " ++ s.bodyText p = p'.connective.token ++ " " ++ s.bodyText p') :
    p = p' := by
  simp only [bodyText, if_pos hparen, ← String.append_assoc, String.append_left_inj] at h
  have hchars := congrArg String.toList h
  simp only [String.toList_append, List.append_assoc] at hchars
  obtain ⟨htoken, hformula⟩ := append_pair_inj (by decide) hp hp' hchars
  have hconnective : p.connective = p'.connective := by
    rw [← Connective.ofToken_token p.connective, ← Connective.ofToken_token p'.connective,
      String.toList_inj.mp htoken]
  cases p with
  | mk f c =>
    cases p' with
    | mk f' c' =>
      obtain rfl : f = f' := String.toList_inj.mp hformula
      obtain rfl : c = c' := hconnective
      rfl

/-! ### Characters that no term holds -/

theorem notMem_append_aliasPart {x : Char} {f link : String} {aliasName : Option String}
    (hf : x ∉ f.toList) (hlink : x ∉ link.toList) (ha : ∀ a ∈ aliasName, x ∉ a.toList) :
    x ∉ (f ++ aliasPart link aliasName).toList := by
  rw [String.toList_append, List.mem_append, not_or]
  refine ⟨hf, ?_⟩
  cases aliasName with
  | none => exact List.not_mem_nil
  | some a =>
    rw [aliasPart]
    split
    · exact List.not_mem_nil
    · rw [String.toList_append, List.mem_append, not_or]
      exact ⟨hlink, ha a rfl⟩

/-- A term has nothing from between the lines and terms but what is in its entry. -/
theorem notMem_terms (s : Settings) {q : Query} {x : Char} (hx : x = '\n' ∨ x = ',') {c : Clause}
    (hfilter : c ≠ .filter) (hhaving : c ≠ .having) (hformula : ∀ f ∈ q.formulas c, x ∉ f.toList)
    (halias : ∀ a ∈ q.shownAliases, x ∉ a.toList) : ∀ t ∈ s.terms q c, x ∉ t.toList := by
  intro t ht
  cases c with
  | select =>
    obtain ⟨i, hi, rfl⟩ := List.mem_map.mp ht
    refine notMem_append_aliasPart (hformula _ (List.mem_map_of_mem hi)) ?_ fun a ha => halias a ?_
    · rcases hx with rfl | rfl <;> decide
    · exact List.mem_append_left _ (List.mem_filterMap.mpr ⟨i, hi, ha⟩)
  | source =>
    obtain ⟨i, hi, rfl⟩ := List.mem_map.mp ht
    refine notMem_append_aliasPart (hformula _ (List.mem_map_of_mem hi)) ?_ fun a ha => halias a ?_
    · rw [sourceLink]
      rcases hx with rfl | rfl <;> cases s.aliasStyle <;> decide
    · exact List.mem_append_right _ (List.mem_filterMap.mpr ⟨i, hi, ha⟩)
  | group => exact hformula t ht
  | order =>
    obtain ⟨k, hk, rfl⟩ := List.mem_map.mp ht
    rw [String.toList_append, List.mem_append, not_or]
    refine ⟨hformula _ (List.mem_map_of_mem hk), ?_⟩
    rcases hx with rfl | rfl <;> cases k.direction <;> decide
  | filter => exact absurd rfl hfilter
  | having => exact absurd rfl hhaving

theorem newline_notMem_predicateTerms (s : Settings) {ps : List Predicate}
    (hformula : ∀ p ∈ ps, '\n' ∉ p.formula.toList)
    (htoken : ∀ p ∈ ps.tail, '\n' ∉ p.connective.token.toList) :
    ∀ t ∈ s.predicateTerms ps, '\n' ∉ t.toList := by
  have hbody : ∀ p : Predicate, '\n' ∉ p.formula.toList → '\n' ∉ (s.bodyText p).toList := by
    intro p hp
    rw [bodyText]
    split
    · simpa using hp
    · exact hp
  cases ps with
  | nil => nofun
  | cons p ps =>
    obtain ⟨hp, hps⟩ := List.forall_mem_cons.mp hformula
    refine List.forall_mem_cons.mpr ⟨hbody p hp, fun t ht => ?_⟩
    obtain ⟨p', hp', rfl⟩ := List.mem_map.mp ht
    have htoken' := htoken p' hp'
    have hbody' := hbody p' (hps p' hp')
    simpa using ⟨htoken', hbody'⟩

theorem newline_notMem_terms (s : Settings) {q : Query} (hq : q.Legible) (c : Clause) :
    ∀ t ∈ s.terms q c, '\n' ∉ t.toList := by
  have hformula : ∀ c, ∀ e ∈ q.entries c, '\n' ∉ (c.formula e).toList :=
    fun c e he => hq.newline_formula c _ (List.mem_map_of_mem he)
  have hrow (hfilter : c ≠ .filter) (hhaving : c ≠ .having) :=
    s.notMem_terms (.inl rfl) hfilter hhaving (hq.newline_formula c) hq.newline_alias
  cases c with
  | filter =>
    refine s.newline_notMem_predicateTerms (hformula .filter) fun p hp => hq.newline_token _ ?_
    exact List.mem_map_of_mem (List.mem_append_left _ hp)
  | having =>
    refine s.newline_notMem_predicateTerms (hformula .having) fun p hp => hq.newline_token _ ?_
    exact List.mem_map_of_mem (List.mem_append_right _ hp)
  | select | source | group | order => exact hrow (by decide) (by decide)

/-! ### From a row to the entries -/

theorem map_eq_of_map_eq {α β γ : Type} {f : α → β} {g : α → γ} {xs ys : List α}
    (hfg : ∀ x ∈ xs, ∀ y ∈ ys, f x = f y → g x = g y) (h : xs.map f = ys.map f) :
    xs.map g = ys.map g := by
  induction xs generalizing ys with
  | nil =>
    cases ys with
    | nil => rfl
    | cons y ys => cases h
  | cons x xs ih =>
    cases ys with
    | nil => cases h
    | cons y ys =>
      obtain ⟨hhead, htail⟩ := List.cons.inj h
      have hxy := hfg x List.mem_cons_self y List.mem_cons_self hhead
      have hrest := ih (fun x' hx' y' hy' =>
        hfg x' (List.mem_cons_of_mem x hx') y' (List.mem_cons_of_mem y hy')) htail
      rw [List.map_cons, List.map_cons, hxy, hrest]

theorem rowLines_inj {heading : String} {xs ys : List String} (hx : ∀ x ∈ xs, ',' ∉ x.toList)
    (hy : ∀ y ∈ ys, ',' ∉ y.toList) (h : rowLines heading xs = rowLines heading ys) : xs = ys := by
  cases xs with
  | nil =>
    cases ys with
    | nil => rfl
    | cons y ys => cases h
  | cons x xs =>
    cases ys with
    | nil => cases h
    | cons y ys =>
      have hrow := (String.append_right_inj heading).mp (List.cons.inj h).1
      exact Text.intercalate_comma_inj (List.cons_ne_nil x xs) (List.cons_ne_nil y ys) hx hy hrow

theorem predicateLines_inj {heading : String} {xs ys : List String}
    (h : s.predicateLines heading xs = s.predicateLines heading ys) : xs = ys := by
  cases xs with
  | nil =>
    cases ys with
    | nil => rfl
    | cons y ys => cases h
  | cons x xs =>
    cases ys with
    | nil => cases h
    | cons y ys =>
      obtain ⟨hhead, htail⟩ := List.cons.inj h
      rw [(String.append_right_inj heading).mp hhead,
        List.map_injective_iff.mpr (fun _ _ => (String.append_right_inj s.indent).mp) htail]

theorem eraseLeading_eq_of_predicateTerms_eq (hparen : s.parenthesize = true)
    {ps ps' : List Predicate}
    (hps : ∀ p ∈ ps.tail, ¬ " (".toList <:+: p.connective.token.toList)
    (hps' : ∀ p ∈ ps'.tail, ¬ " (".toList <:+: p.connective.token.toList)
    (h : s.predicateTerms ps = s.predicateTerms ps') : eraseLeading ps = eraseLeading ps' := by
  cases ps with
  | nil =>
    cases ps' with
    | nil => rfl
    | cons p' ps' => cases h
  | cons p ps =>
    cases ps' with
    | nil => cases h
    | cons p' ps' =>
      obtain ⟨hfirst, hrest⟩ := List.cons.inj h
      have hid := map_eq_of_map_eq (g := id)
        (fun x hx y hy hxy => joined_inj hparen (hps x hx) (hps' y hy) hxy) hrest
      rw [List.map_id, List.map_id] at hid
      rw [eraseLeading, eraseLeading, bodyText_inj hparen hfirst, show ps = ps' from hid]

/-! ### From a line to its terms -/

theorem clauseLines_eq_rowLines {q : Query} {c : Clause} (hfilter : c ≠ .filter)
    (hhaving : c ≠ .having) : s.clauseLines q c = rowLines (q.heading c) (s.terms q c) := by
  cases c with
  | filter => exact absurd rfl hfilter
  | having => exact absurd rfl hhaving
  | select | source | group | order => rfl

theorem rowTerms_eq (hq₁ : q₁.Legible) (hq₂ : q₂.Legible) {c : Clause} (hfilter : c ≠ .filter)
    (hhaving : c ≠ .having) {heading : String}
    (h : rowLines heading (s.terms q₁ c) = rowLines heading (s.terms q₂ c)) :
    s.terms q₁ c = s.terms q₂ c := by
  have hcomma : ∀ {q : Query}, q.Legible → ∀ t ∈ s.terms q c, ',' ∉ t.toList :=
    fun hq => s.notMem_terms (.inr rfl) hfilter hhaving (hq.comma_formula c hfilter hhaving)
      hq.comma_alias
  exact rowLines_inj (hcomma hq₁) (hcomma hq₂) h

theorem not_prefix_append {d f rest : List Char} (hf : ¬ d <+: f)
    (hrest : ∀ x, rest.head? = some x → x ∉ d) : ¬ d <+: f ++ rest := by
  intro h
  rcases List.prefix_or_prefix_of_prefix h (List.prefix_append f rest) with hd | ⟨d', rfl⟩
  · exact hf hd
  · cases d' with
    | nil => exact hf ⟨[], by rw [List.append_nil, List.append_nil]⟩
    | cons x d' =>
      obtain ⟨rest', rfl⟩ := (List.prefix_append_right_inj f).mp h
      exact hrest x rfl (List.mem_append_right f List.mem_cons_self)

theorem not_distinct_prefix_row (hq : q₁.Legible) (hitems : q₁.items ≠ []) :
    ¬ "DISTINCT".toList <+: (", ".intercalate (s.terms q₁ .select)).toList := by
  obtain ⟨i, is, hcons⟩ := List.exists_cons_of_ne_nil hitems
  have hfirst : ¬ "DISTINCT".toList <+: i.formula.toList :=
    hq.distinct_item i (by rw [hcons]; rfl)
  rw [terms, hcons, List.map_cons, Text.intercalate_cons_eq_join, String.append_assoc,
    String.toList_append]
  refine not_prefix_append hfirst fun x hx => ?_
  -- The formula is followed by an alias, by the next term or by nothing.
  have hmark : x = ' ' ∨ x = ',' := by
    rw [String.toList_append, toList_aliasPart] at hx
    cases he : eraseAlias i.aliasName with
    | some a =>
      rw [he] at hx
      exact .inl (Option.some.inj hx).symm
    | none =>
      rw [he, Option.elim_none, List.nil_append] at hx
      cases is with
      | nil => cases hx
      | cons i' is =>
        rw [List.map_cons, List.map_cons, String.join_cons, String.append_assoc,
          String.toList_append] at hx
        exact .inr (Option.some.inj hx).symm
  rcases hmark with rfl | rfl <;> decide

theorem distinct_eq_of_clauseLines_eq (hq₁ : q₁.Legible) (hq₂ : q₂.Legible)
    (hitems₁ : q₁.items ≠ []) (hitems₂ : q₂.items ≠ [])
    (h : s.clauseLines q₁ .select = s.clauseLines q₂ .select) : q₁.distinct = q₂.distinct := by
  have hstarts : ∀ {r r' : String}, "SELECT DISTINCT " ++ r = "SELECT " ++ r' →
      "DISTINCT".toList <+: r'.toList := by
    intro r r' hrr
    rw [show "SELECT DISTINCT " = "SELECT " ++ "DISTINCT" ++ " " from rfl, String.append_assoc,
      String.append_assoc, String.append_right_inj] at hrr
    rw [← hrr, String.toList_append]
    exact List.prefix_append _ _
  have hline : ∀ {q : Query}, q.items ≠ [] → s.clauseLines q .select =
      [q.heading .select ++ ", ".intercalate (s.terms q .select)] := by
    intro q hitems
    obtain ⟨t, ts, hterms⟩ := List.exists_cons_of_ne_nil
      (fun hnil => hitems ((s.terms_eq_nil_iff q .select).mp hnil))
    rw [clauseLines_eq_rowLines (by decide) (by decide), hterms]
    rfl
  rw [hline hitems₁, hline hitems₂] at h
  have hrow := (List.cons.inj h).1
  cases hd₁ : q₁.distinct <;> cases hd₂ : q₂.distinct
  · rfl
  · simp only [Query.heading, hd₁, hd₂] at hrow
    exact absurd (hstarts hrow.symm) (not_distinct_prefix_row hq₁ hitems₁)
  · simp only [Query.heading, hd₁, hd₂] at hrow
    exact absurd (hstarts hrow) (not_distinct_prefix_row hq₂ hitems₂)
  · rfl

/-! ### From the terms to the query -/

theorem items_erase_inj (hq₁ : q₁.Legible) (hq₂ : q₂.Legible)
    (h : s.terms q₁ .select = s.terms q₂ .select) : q₁.erase.items = q₂.erase.items := by
  refine map_eq_of_map_eq (fun i hi j hj hij => ?_) h
  have halias : ∀ {q : Query}, q.Legible → ∀ i ∈ q.items, ∀ a ∈ i.aliasName, ' ' ∉ a.toList :=
    fun hq i hi a ha =>
      hq.space_alias a (List.mem_append_left _ (List.mem_filterMap.mpr ⟨i, hi, ha⟩))
  have hlink : " AS ".toList = " AS".toList ++ [' '] := rfl
  obtain ⟨hformula, haliasName⟩ := append_aliasPart_inj hlink (hq₁.as_item i hi) (hq₂.as_item j hj)
    (halias hq₁ i hi) (halias hq₂ j hj) hij
  rw [hformula, haliasName]

theorem sources_erase_inj (hq₁ : q₁.Legible) (hq₂ : q₂.Legible)
    (h : s.terms q₁ .source = s.terms q₂ .source) : q₁.erase.sources = q₂.erase.sources := by
  refine map_eq_of_map_eq (fun t ht u hu htu => ?_) h
  have halias : ∀ {q : Query}, q.Legible → ∀ t ∈ q.sources, ∀ a ∈ t.aliasName, ' ' ∉ a.toList :=
    fun hq t ht a ha =>
      hq.space_alias a (List.mem_append_right _ (List.mem_filterMap.mpr ⟨t, ht, ha⟩))
  obtain ⟨start, hlink⟩ : ∃ start, s.sourceLink.toList = start ++ [' '] := by
    rw [sourceLink]
    cases s.aliasStyle with
    | bare => exact ⟨[], rfl⟩
    | as => exact ⟨" AS".toList, rfl⟩
  -- A table name has no space, so it does not hold the link.
  have hname : ∀ {q : Query}, q.Legible → ∀ t ∈ q.sources,
      ¬ s.sourceLink.toList <:+: t.table.toList := by
    intro q hq t ht hholds
    refine hq.space_source t ht (hholds.subset ?_)
    rw [hlink]
    exact List.mem_append_right start List.mem_cons_self
  obtain ⟨htable, haliasName⟩ := append_aliasPart_inj hlink (hname hq₁ t ht) (hname hq₂ u hu)
    (halias hq₁ t ht) (halias hq₂ u hu) htu
  rw [htable, haliasName]

theorem groups_erase_inj (h : s.terms q₁ .group = s.terms q₂ .group) :
    q₁.erase.groups = q₂.erase.groups :=
  map_eq_of_map_eq (fun _ _ _ _ hij => congrArg (Item.mk · none) hij) h

theorem orders_erase_inj (h : s.terms q₁ .order = s.terms q₂ .order) :
    q₁.erase.orders = q₂.erase.orders := by
  refine map_eq_of_map_eq (fun k _ l _ hkl => ?_) h
  obtain ⟨hformula, hdirection⟩ := directionPart_inj hkl
  exact congrArg₂ (fun f d => SortKey.mk ⟨f, none⟩ d) hformula hdirection

theorem erase_eq_of_clauseLines_eq (hparen : s.parenthesize = true) (hq₁ : q₁.Legible)
    (hq₂ : q₂.Legible) (hitems₁ : q₁.items ≠ []) (hitems₂ : q₂.items ≠ [])
    (h : ∀ c, s.clauseLines q₁ c = s.clauseLines q₂ c) : q₁.erase = q₂.erase := by
  have hdistinct := distinct_eq_of_clauseLines_eq hq₁ hq₂ hitems₁ hitems₂ (h .select)
  have hheading : ∀ c, q₁.heading c = q₂.heading c := by
    intro c
    cases c with
    | select => rw [Query.heading, Query.heading, hdistinct]
    | source | filter | group | having | order => rfl
  have hrow : ∀ c, c ≠ .filter → c ≠ .having → s.terms q₁ c = s.terms q₂ c := by
    intro c hfilter hhaving
    have hc := h c
    rw [clauseLines_eq_rowLines hfilter hhaving, clauseLines_eq_rowLines hfilter hhaving,
      hheading c] at hc
    exact rowTerms_eq hq₁ hq₂ hfilter hhaving hc
  have hitems := items_erase_inj hq₁ hq₂ (hrow .select (by decide) (by decide))
  have hsources := sources_erase_inj hq₁ hq₂ (hrow .source (by decide) (by decide))
  have hgroups := groups_erase_inj (hrow .group (by decide) (by decide))
  have horders := orders_erase_inj (hrow .order (by decide) (by decide))
  have hfilters : eraseLeading q₁.filters = eraseLeading q₂.filters :=
    eraseLeading_eq_of_predicateTerms_eq hparen
      (fun p hp => hq₁.bracket_token _ (List.mem_map_of_mem (List.mem_append_left _ hp)))
      (fun p hp => hq₂.bracket_token _ (List.mem_map_of_mem (List.mem_append_left _ hp)))
      (predicateLines_inj (h .filter))
  have hhavings : eraseLeading q₁.havings = eraseLeading q₂.havings :=
    eraseLeading_eq_of_predicateTerms_eq hparen
      (fun p hp => hq₁.bracket_token _ (List.mem_map_of_mem (List.mem_append_right _ hp)))
      (fun p hp => hq₂.bracket_token _ (List.mem_map_of_mem (List.mem_append_right _ hp)))
      (predicateLines_inj (h .having))
  exact Query.mk.injEq .. |>.mpr
    ⟨hdistinct, hitems, hsources, hfilters, hgroups, hhavings, horders⟩

/-! ### From the statement to the query -/

/-- Queries that agree as erased have the same statement or refusal; and where the layout keeps the
texts of a query apart, legible queries with one statement agree as erased. -/
theorem statement_determines_erase :
    (∀ (s : Settings) (q₁ q₂ : Query), q₁.erase = q₂.erase → s.statement q₁ = s.statement q₂) ∧
    ∀ (s : Settings) (q₁ q₂ : Query) (sql : String), s.pretty = true → s.parenthesize = true →
      s.indent ≠ "" → '\n' ∉ s.indent.toList → q₁.Legible → q₂.Legible →
      s.statement q₁ = .ok sql → s.statement q₂ = .ok sql → q₁.erase = q₂.erase := by
  constructor
  · intro s q₁ q₂ h
    rw [← s.statement_erase q₁, ← s.statement_erase q₂, h]
  · intro s q₁ q₂ sql hpretty hparen hne hindent hq₁ hq₂ h₁ h₂
    obtain ⟨hvalidate, hitems₁, -, hsql₁⟩ := (s.statement_eq_ok_iff_checked q₁ sql).mp h₁
    obtain ⟨-, hitems₂, -, hsql₂⟩ := (s.statement_eq_ok_iff_checked q₂ sql).mp h₂
    have hlines := s.clauseLines_inj hpretty (isBlank_indent_of_validate hvalidate) hne hindent
      hitems₁ hitems₂ (s.newline_notMem_terms hq₁) (s.newline_notMem_terms hq₂)
      (hsql₁.symm.trans hsql₂)
    exact erase_eq_of_clauseLines_eq hparen hq₁ hq₂ hitems₁ hitems₂ hlines

theorem erase_eq_of_one_statement :
    let q₁ : Query :=
      { items := [⟨"a", some "x"⟩, ⟨"b", some ""⟩]
        sources := [⟨"t", none⟩]
        filters := [⟨"p", .or⟩, ⟨"q", .or⟩]
        orders := [⟨⟨"a", some "x"⟩, .descending⟩] }
    let q₂ : Query :=
      { items := [⟨"a", some "x"⟩, ⟨"b", none⟩]
        sources := [⟨"t", some ""⟩]
        filters := [⟨"p", .and⟩, ⟨"q", .or⟩]
        orders := [⟨⟨"a", none⟩, .descending⟩] }
    q₁.Legible ∧ q₂.Legible ∧ q₁ ≠ q₂ ∧ q₁.erase = q₂.erase := by
  intro q₁ q₂
  have hq₁ : q₁.Legible := by
    constructor <;> decide
  have hq₂ : q₂.Legible := by
    constructor <;> decide
  have h₁ : ({} : Settings).statement q₁ = .ok
      "SELECT DISTINCT a AS x, b\nFROM t\nWHERE (p)\n  OR (q)\nORDER BY a DESC" := by
    decide
  have h₂ : ({} : Settings).statement q₂ = .ok
      "SELECT DISTINCT a AS x, b\nFROM t\nWHERE (p)\n  OR (q)\nORDER BY a DESC" := by
    decide
  exact ⟨hq₁, hq₂, by decide, statement_determines_erase.2 {} q₁ q₂ _ rfl rfl (by decide)
    (by decide) hq₁ hq₂ h₁ h₂⟩

end Settings

end SelectQuery
