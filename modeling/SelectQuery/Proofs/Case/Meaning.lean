import Mathlib.Data.List.Forall2
import SelectQuery.Proofs.Case.Written

/-!
# What outlines mean

An outline is built into a query by appending: the flag is set if one is given, then the entries
that the parts of each list stand for are appended in order, one list after the other
(`Outline.build`). That makes the query that the outline means. What may be left out of a part, or
written short, does not show in the query, and all else does: written in full again the query is the
outline in full (`Outline.outline_query`). Main statement: `outlines_mean_queries`.
-/

namespace SelectQuery

/-! ### Parts and the entries that they stand for -/

namespace ItemOutline

/-- A formula or table alone has no alias. -/
inductive Gives : ItemOutline → String → Option String → Prop
  | bare (text : String) : Gives (.bare text) text none
  | full (text : String) (aliasName : Option String) : Gives (.full text aliasName) text aliasName

def inFull : ItemOutline → ItemOutline
  | bare text => .full text none
  | full text aliasName => .full text aliasName

theorem gives_iff {p : ItemOutline} {text : String} {aliasName : Option String} :
    p.Gives text aliasName ↔ p.formula = text ∧ p.aliasName = aliasName := by
  constructor
  · rintro (_ | _) <;> exact ⟨rfl, rfl⟩
  · rintro ⟨rfl, rfl⟩
    cases p with
    | bare text => exact .bare text
    | full text aliasName => exact .full text aliasName

theorem full_formula_aliasName (p : ItemOutline) : .full p.formula p.aliasName = p.inFull := by
  cases p <;> rfl

end ItemOutline

namespace PredicateOutline

/-- A condition is joined by AND unless the token of another connective is given. -/
inductive Gives : PredicateOutline → Predicate → Prop
  | bare (formula : String) : Gives (.bare formula) ⟨formula, .and⟩
  | full (formula : String) : Gives (.full formula none) ⟨formula, .and⟩
  | token (formula : String) (c : Connective) : Gives (.full formula (some c.token)) ⟨formula, c⟩

def inFull : PredicateOutline → PredicateOutline
  | bare formula => .full formula (some "AND")
  | full formula token => .full formula (some (token.getD "AND"))

theorem gives_iff {p : PredicateOutline} {e : Predicate} : p.Gives e ↔ p.predicate = e := by
  constructor
  · rintro (_ | _ | ⟨formula, c⟩)
    · rfl
    · rfl
    · show Predicate.mk formula (Connective.ofToken c.token) = ⟨formula, c⟩
      rw [Connective.ofToken_token]
  · rintro rfl
    match p with
    | .bare formula => exact .bare formula
    | .full formula none => exact .full formula
    | .full formula (some token) =>
      have h := Gives.token formula (.ofToken token)
      rwa [Connective.token_ofToken] at h

theorem full_predicate (p : PredicateOutline) :
    .full p.predicate.formula (some p.predicate.connective.token) = p.inFull := by
  match p with
  | .bare formula => rfl
  | .full formula none => rfl
  | .full formula (some token) =>
    show full formula (some (Connective.ofToken token).token) = full formula (some token)
    rw [Connective.token_ofToken]

end PredicateOutline

namespace SortOutline

/-- A key ascends unless a direction is given. -/
inductive Gives : SortOutline → SortKey → Prop
  | ascending (i : Item) : Gives ⟨i.formula, i.aliasName, none⟩ ⟨i, .ascending⟩
  | directed (k : SortKey) : Gives ⟨k.item.formula, k.item.aliasName, some k.direction⟩ k

def inFull (p : SortOutline) : SortOutline :=
  { p with direction := some (p.direction.getD .ascending) }

theorem gives_iff {p : SortOutline} {k : SortKey} : p.Gives k ↔ p.key = k := by
  constructor
  · rintro (_ | _) <;> rfl
  · rintro rfl
    match p with
    | ⟨formula, aliasName, none⟩ => exact .ascending ⟨formula, aliasName⟩
    | ⟨formula, aliasName, some d⟩ => exact .directed ⟨⟨formula, aliasName⟩, d⟩

end SortOutline

/-! ### Parts by clause -/

namespace Clause

/-- What an outline's list for a clause holds. -/
abbrev Part : Clause → Type
  | select => ItemOutline
  | source => ItemOutline
  | filter => PredicateOutline
  | group => ItemOutline
  | having => PredicateOutline
  | order => SortOutline

/-- The entry that a part stands for. -/
def entry : (c : Clause) → c.Part → c.Entry
  | select, p => ItemOutline.item p
  | source, p => ItemOutline.source p
  | filter, p => PredicateOutline.predicate p
  | group, p => ItemOutline.item p
  | having, p => PredicateOutline.predicate p
  | order, p => SortOutline.key p

def Gives : (c : Clause) → c.Part → c.Entry → Prop
  | select, p, e => ItemOutline.Gives p (Item.formula e) (Item.aliasName e)
  | source, p, e => ItemOutline.Gives p (Source.table e) (Source.aliasName e)
  | filter, p, e => PredicateOutline.Gives p e
  | group, p, e => ItemOutline.Gives p (Item.formula e) (Item.aliasName e)
  | having, p, e => PredicateOutline.Gives p e
  | order, p, e => SortOutline.Gives p e

theorem gives_iff (c : Clause) {p : c.Part} {e : c.Entry} : c.Gives p e ↔ c.entry p = e := by
  have hitem : ∀ (p : ItemOutline) (i : Item),
      p.Gives i.formula i.aliasName ↔ p.item = i := fun p i => by
    rw [ItemOutline.gives_iff, ItemOutline.item, Item.mk.injEq]
  cases c with
  | select => exact hitem p e
  | source =>
    show ItemOutline.Gives p (Source.table e) (Source.aliasName e) ↔ ItemOutline.source p = e
    rw [ItemOutline.gives_iff, ItemOutline.source, Source.mk.injEq]
  | filter => exact PredicateOutline.gives_iff
  | group => exact hitem p e
  | having => exact PredicateOutline.gives_iff
  | order => exact SortOutline.gives_iff

end Clause

/-! ### Appending -/

namespace Query

/-- Entries appended to the list of a clause, one after the other. -/
def appendAll (q : Query) (c : Clause) (es : List c.Entry) : Query :=
  es.foldl (fun q e => q.append c e) q

theorem distinct_appendAll (q : Query) (c : Clause) (es : List c.Entry) :
    (q.appendAll c es).distinct = q.distinct := by
  induction es generalizing q with
  | nil => rfl
  | cons e es ih => exact (ih (q.append c e)).trans (q.distinct_append c e)

theorem entries_appendAll_self (q : Query) (c : Clause) (es : List c.Entry) :
    (q.appendAll c es).entries c = q.entries c ++ es := by
  induction es generalizing q with
  | nil => exact (List.append_nil _).symm
  | cons e es ih =>
    have hrest := ih (q.append c e)
    rw [entries_append_self, List.append_assoc] at hrest
    exact hrest

theorem entries_appendAll_of_ne (q : Query) {c d : Clause} (h : d ≠ c) (es : List c.Entry) :
    (q.appendAll c es).entries d = q.entries d := by
  induction es generalizing q with
  | nil => rfl
  | cons e es ih => exact (ih (q.append c e)).trans (q.entries_append_of_ne h e)

/-- Lists appended clause by clause: each goes to the list of its clause and to no other. -/
theorem entries_foldl_appendAll {cs : List Clause} (hcs : cs.Nodup)
    (lists : (c : Clause) → List c.Entry) (q : Query) {c : Clause} :
    (cs.foldl (fun q d => q.appendAll d (lists d)) q).entries c =
      if c ∈ cs then q.entries c ++ lists c else q.entries c := by
  induction cs generalizing q with
  | nil => rfl
  | cons d cs ih =>
    obtain ⟨hd, hcs⟩ := List.nodup_cons.mp hcs
    rw [List.foldl_cons, ih hcs]
    by_cases hc : c = d
    · subst hc
      rw [if_neg hd, if_pos List.mem_cons_self, entries_appendAll_self]
    · rw [entries_appendAll_of_ne q hc]
      simp only [List.mem_cons, hc, false_or]

theorem distinct_foldl_appendAll (cs : List Clause) (lists : (c : Clause) → List c.Entry)
    (q : Query) : (cs.foldl (fun q d => q.appendAll d (lists d)) q).distinct = q.distinct := by
  induction cs generalizing q with
  | nil => rfl
  | cons d cs ih => exact (ih (q.appendAll d (lists d))).trans (q.distinct_appendAll d (lists d))

end Query

namespace Outline

/-- The list of a clause. -/
def parts (o : Outline) : (c : Clause) → List c.Part
  | .select => o.items
  | .source => o.sources
  | .filter => o.filters
  | .group => o.groups
  | .having => o.havings
  | .order => o.orders

/-- The query to which everything in an outline is appended, list by list, once its flag is set. -/
def build (o : Outline) : Query :=
  Clause.all.foldl (fun q c => q.appendAll c ((o.parts c).map c.entry))
    (o.distinct.elim .empty Query.empty.setDistinct)

/-- The outline with nothing left out. -/
def inFull (o : Outline) : Outline where
  distinct := some (o.distinct.getD true)
  items := o.items.map ItemOutline.inFull
  sources := o.sources.map ItemOutline.inFull
  filters := o.filters.map PredicateOutline.inFull
  groups := o.groups.map ItemOutline.inFull
  havings := o.havings.map PredicateOutline.inFull
  orders := o.orders.map SortOutline.inFull

theorem entries_query (o : Outline) (c : Clause) :
    o.query.entries c = (o.parts c).map c.entry := by
  cases c <;> rfl

theorem build_eq_query (o : Outline) : o.build = o.query := by
  refine Query.ext_entries ?_ fun c => ?_
  · have hflag : o.query.distinct = o.distinct.getD true := rfl
    rw [build, Query.distinct_foldl_appendAll, hflag]
    cases o.distinct <;> rfl
  · have hstart : (o.distinct.elim .empty Query.empty.setDistinct).entries c = [] := by
      cases o.distinct <;> cases c <;> rfl
    rw [build, Query.entries_foldl_appendAll (by decide), if_pos c.mem_all, hstart,
      List.nil_append, o.entries_query]

theorem query_eq_iff {o : Outline} {q : Query} : o.query = q ↔
    q.distinct = o.distinct.getD true ∧ ∀ c, List.Forall₂ c.Gives (o.parts c) (q.entries c) := by
  have hlist : ∀ c, List.Forall₂ c.Gives (o.parts c) (q.entries c) ↔
      o.query.entries c = q.entries c := by
    intro c
    have hgives : c.Gives = fun p e => c.entry p = e := by
      funext p e
      exact propext c.gives_iff
    rw [hgives, o.entries_query, ← List.forall₂_map_left_iff, List.forall₂_eq_eq_eq]
  simp only [hlist]
  constructor
  · rintro rfl
    exact ⟨rfl, fun _ => rfl⟩
  · rintro ⟨hdistinct, hentries⟩
    exact Query.ext_entries hdistinct.symm hentries

/-- Taken from the query again, an outline is in full. -/
theorem outline_query (o : Outline) : o.query.outline = o.inFull := by
  have hitems : ∀ l : List ItemOutline,
      (l.map ItemOutline.item).map (fun i => ItemOutline.full i.formula i.aliasName) =
        l.map ItemOutline.inFull := fun l => by
    rw [List.map_map]
    exact List.map_congr_left fun p _ => p.full_formula_aliasName
  have hsources : (o.sources.map ItemOutline.source).map
      (fun t => ItemOutline.full t.table t.aliasName) = o.sources.map ItemOutline.inFull := by
    rw [List.map_map]
    exact List.map_congr_left fun p _ => p.full_formula_aliasName
  have hpredicates : ∀ l : List PredicateOutline, (l.map PredicateOutline.predicate).map
      (fun p => PredicateOutline.full p.formula (some p.connective.token)) =
        l.map PredicateOutline.inFull := fun l => by
    rw [List.map_map]
    exact List.map_congr_left fun p _ => p.full_predicate
  have horders : (o.orders.map SortOutline.key).map
      (fun k => SortOutline.mk k.item.formula k.item.aliasName (some k.direction)) =
        o.orders.map SortOutline.inFull := List.map_map
  simp only [Query.outline, query, inFull, hitems, hsources, hpredicates, horders]

theorem query_eq_query_iff {o₁ o₂ : Outline} : o₁.query = o₂.query ↔ o₁.inFull = o₂.inFull := by
  constructor
  · intro h
    rw [← o₁.outline_query, ← o₂.outline_query, h]
  · intro h
    rw [← o₁.query.query_outline, ← o₂.query.query_outline, o₁.outline_query, o₂.outline_query, h]

/-- A token in other letters is kept apart from one that is left out. -/
example : ({ filters := [.bare "p", .full "q" none, .full "r" (some "and")] } : Outline).inFull =
    { distinct := some true, filters := [.full "p" (some "AND"), .full "q" (some "AND"),
      .full "r" (some "and")] } := by
  decide

/-! ### One part for another -/

/-- The outline with another list for a clause. -/
def put (o : Outline) : (c : Clause) → List c.Part → Outline
  | .select, l => { o with items := l }
  | .source, l => { o with sources := l }
  | .filter, l => { o with filters := l }
  | .group, l => { o with groups := l }
  | .having, l => { o with havings := l }
  | .order, l => { o with orders := l }

theorem entries_query_put_self (o : Outline) (c : Clause) (l : List c.Part) :
    (o.put c l).query.entries c = l.map c.entry := by
  cases c <;> rfl

theorem entries_query_put_of_ne (o : Outline) {c d : Clause} (h : d ≠ c) (l : List c.Part) :
    (o.put c l).query.entries d = o.query.entries d := by
  cases c <;> cases d <;> first | rfl | exact absurd rfl h

theorem distinct_query_put (o : Outline) (c : Clause) (l : List c.Part) :
    (o.put c l).query.distinct = o.query.distinct := by
  cases c <;> rfl

/-- A part of a list may stand for another where both stand for one entry, and only there. -/
theorem query_put_eq_iff (o : Outline) (c : Clause) (before after : List c.Part) (p p' : c.Part) :
    (o.put c (before ++ p :: after)).query = (o.put c (before ++ p' :: after)).query ↔
      c.entry p = c.entry p' := by
  constructor
  · intro h
    have hlist := congrArg (fun q => q.entries c) h
    simp only [entries_query_put_self, List.map_append, List.map_cons] at hlist
    exact (List.cons.inj (List.append_cancel_left hlist)).1
  · intro h
    refine Query.ext_entries ?_ fun d => ?_
    · rw [distinct_query_put, distinct_query_put]
    · by_cases hd : d = c
      · subst hd
        simp only [entries_query_put_self, List.map_append, List.map_cons, h]
      · rw [entries_query_put_of_ne o hd, entries_query_put_of_ne o hd]

end Outline

theorem PredicateOutline.predicate_token_eq_iff (formula token : String) :
    (full formula (some token)).predicate = (full formula none).predicate ↔ token = "AND" := by
  show Predicate.mk formula (.ofToken token) = Predicate.mk formula .and ↔ token = "AND"
  rw [Predicate.mk.injEq, and_iff_right rfl]
  constructor
  · intro h
    rw [← Connective.token_ofToken token, h]
    rfl
  · rintro rfl
    rfl

/-- What outlines say of queries. -/
structure OutlineMeaning : Prop where
  /-- Appending everything in an outline makes the query that it means. -/
  appended : ∀ o : Outline, o.build = o.query
  /-- That query is DISTINCT unless the outline says otherwise, and each of its lists holds what the
  parts of the outline's list stand for, one by one. -/
  lists : ∀ (o : Outline) (q : Query), o.query = q ↔
    q.distinct = o.distinct.getD true ∧ ∀ c, List.Forall₂ c.Gives (o.parts c) (q.entries c)
  /-- Every query is meant by an outline. -/
  every : ∀ q : Query, ∃ o : Outline, o.query = q
  /-- Two outlines mean the same exactly when they are the same in full. -/
  same : ∀ o₁ o₂ : Outline, (o₁.query.distinct = o₂.query.distinct ∧
    ∀ c, o₁.query.entries c = o₂.query.entries c) ↔ o₁.inFull = o₂.inFull
  /-- Of all tokens only `AND` may be left out. -/
  tokens : ∀ o : Outline, ∀ put ∈ [o.put .filter, o.put .having],
    ∀ before after formula token,
    (put (before ++ .full formula (some token) :: after)).query =
      (put (before ++ .full formula none :: after)).query ↔ token = "AND"
  /-- An alias, be it empty, is never the same as none. -/
  aliases : ∀ o : Outline, ∀ put ∈ [o.put .select, o.put .source, o.put .group],
    ∀ before after text aliasName,
    (put (before ++ .full text (some aliasName) :: after)).query ≠
      (put (before ++ .full text none :: after)).query
  orderAliases : ∀ (o : Outline) before after formula aliasName direction,
    (o.put .order (before ++ ⟨formula, some aliasName, direction⟩ :: after)).query ≠
      (o.put .order (before ++ ⟨formula, none, direction⟩ :: after)).query

theorem outlines_mean_queries : OutlineMeaning where
  appended := Outline.build_eq_query
  lists _ _ := Outline.query_eq_iff
  every q := ⟨q.outline, q.query_outline⟩
  same o₁ o₂ := by
    rw [← Outline.query_eq_query_iff]
    constructor
    · rintro ⟨hdistinct, hentries⟩
      exact Query.ext_entries hdistinct hentries
    · intro h
      rw [h]
      exact ⟨rfl, fun _ => rfl⟩
  tokens o := by
    rw [List.forall_mem_cons, List.forall_mem_singleton]
    constructor
    · intro before after formula token
      exact (o.query_put_eq_iff .filter ..).trans
        (PredicateOutline.predicate_token_eq_iff formula token)
    · intro before after formula token
      exact (o.query_put_eq_iff .having ..).trans
        (PredicateOutline.predicate_token_eq_iff formula token)
  aliases o := by
    rw [List.forall_mem_cons, List.forall_mem_cons, List.forall_mem_singleton]
    refine ⟨?_, ?_, ?_⟩
    · intro before after text aliasName h
      cases (o.query_put_eq_iff .select ..).mp h
    · intro before after text aliasName h
      cases (o.query_put_eq_iff .source ..).mp h
    · intro before after text aliasName h
      cases (o.query_put_eq_iff .group ..).mp h
  orderAliases o before after formula aliasName direction h := by
    cases (o.query_put_eq_iff .order ..).mp h

/-- A token OR may not be left out, nor may an empty alias. -/
theorem outlines_mean_queries_of_one_part :
    let o : Outline := { distinct := some false }
    o.put .having ∈ [o.put .filter, o.put .having] ∧
    (o.put .having [.full "h" (some "OR")]).query ≠ (o.put .having [.full "h" none]).query ∧
    o.put .source ∈ [o.put .select, o.put .source, o.put .group] ∧
    (o.put .source [.full "t" (some "")]).query ≠ (o.put .source [.full "t" none]).query := by
  intro o
  have hhaving : o.put .having ∈ [o.put .filter, o.put .having] :=
    List.mem_cons_of_mem _ (List.mem_singleton_self _)
  have hsource : o.put .source ∈ [o.put .select, o.put .source, o.put .group] :=
    List.mem_cons_of_mem _ List.mem_cons_self
  refine ⟨hhaving, ?_, hsource, outlines_mean_queries.aliases o _ hsource [] [] "t" ""⟩
  intro h
  have htoken := (outlines_mean_queries.tokens o _ hhaving [] [] "h" "OR").mp h
  exact absurd htoken (by decide)

end SelectQuery
