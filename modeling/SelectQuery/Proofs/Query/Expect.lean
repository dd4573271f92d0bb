import SelectQuery.Live.Store
import SelectQuery.Query.Expect

/-!
# What expectations tell

An expectation compares the fields of an entry one after the other with what they should be. It is
told here by the list of its comparisons (`Compares`): it passes when all of them agree, and else it
reports the first that does not, with a text that says its reason and its two values
(`Compares.message_eq_iff`). An expectation that is made of others has the comparisons of both in a
row. Main statement: `expectations_tell`.
-/

namespace SelectQuery

/-- A field with the value that it has and the one that it should have. -/
structure Comparison where
  Value : Type
  inspect : Value → Inspect
  reason : String
  actual : Value
  wanted : Value

namespace Comparison

def Agrees (c : Comparison) : Prop := c.actual = c.wanted

def mismatch (c : Comparison) : Mismatch := ⟨c.reason, c.inspect c.actual, c.inspect c.wanted⟩

end Comparison

/-- The mismatch is that of a comparison before which all agree. -/
def FirstDifference (cs : List Comparison) (m : Mismatch) : Prop :=
  ∃ before c after, cs = before ++ c :: after ∧ (∀ b ∈ before, b.Agrees) ∧ ¬c.Agrees ∧
    m = c.mismatch

theorem not_firstDifference_nil (m : Mismatch) : ¬FirstDifference [] m := by
  rintro ⟨before, c, after, h, -⟩
  simp at h

theorem firstDifference_cons_iff {c : Comparison} {cs : List Comparison} {m : Mismatch} :
    FirstDifference (c :: cs) m ↔
      (¬c.Agrees ∧ m = c.mismatch) ∨ (c.Agrees ∧ FirstDifference cs m) := by
  constructor
  · rintro ⟨before, d, after, hsplit, hbefore, hd, rfl⟩
    cases before with
    | nil =>
      obtain ⟨rfl, -⟩ := List.cons.inj hsplit
      exact .inl ⟨hd, rfl⟩
    | cons b before =>
      obtain ⟨rfl, rfl⟩ := List.cons.inj hsplit
      obtain ⟨hc, hbefore⟩ := List.forall_mem_cons.mp hbefore
      exact .inr ⟨hc, before, d, after, rfl, hbefore, hd, rfl⟩
  · rintro (⟨hc, rfl⟩ | ⟨hc, before, d, after, rfl, hbefore, hd, rfl⟩)
    · exact ⟨[], c, cs, rfl, List.forall_mem_nil _, hc, rfl⟩
    · exact ⟨c :: before, d, after, rfl, List.forall_mem_cons.mpr ⟨hc, hbefore⟩, hd, rfl⟩

theorem firstDifference_append_iff {cs ds : List Comparison} {m : Mismatch} :
    FirstDifference (cs ++ ds) m ↔
      FirstDifference cs m ∨ ((∀ c ∈ cs, c.Agrees) ∧ FirstDifference ds m) := by
  induction cs with
  | nil => simp [not_firstDifference_nil]
  | cons c cs ih =>
    rw [List.cons_append, firstDifference_cons_iff, firstDifference_cons_iff, ih,
      List.forall_mem_cons, and_or_left, or_assoc, and_assoc]

/-- A result is that of comparisons made one after the other. -/
structure Compares (cs : List Comparison) (r : Except Mismatch Unit) : Prop where
  passes : r = .ok () ↔ ∀ c ∈ cs, c.Agrees
  reports : ∀ m, r = .error m ↔ FirstDifference cs m

namespace Compares

theorem unlessEq {α : Type} [DecidableEq α] (inspect : α → Inspect) (reason : String)
    (actual wanted : α) :
    Compares [⟨α, inspect, reason, actual, wanted⟩]
      (Mismatch.unlessEq inspect reason actual wanted) where
  passes := by
    rw [Mismatch.unlessEq, List.forall_mem_singleton, Comparison.Agrees]
    by_cases h : actual = wanted <;> simp [h]
  reports m := by
    rw [Mismatch.unlessEq, firstDifference_cons_iff, Comparison.Agrees]
    by_cases h : actual = wanted
    · simp [h, not_firstDifference_nil]
    · simp [h, Comparison.mismatch, eq_comm]

theorem bind {cs ds : List Comparison} {x y : Except Mismatch Unit} (hx : Compares cs x)
    (hy : Compares ds y) : Compares (cs ++ ds) (x >>= fun _ => y) where
  passes := by
    rw [List.forall_mem_append, ← hx.passes, ← hy.passes]
    cases x <;> simp [Bind.bind, Except.bind]
  reports m := by
    rw [firstDifference_append_iff, ← hx.passes, ← hx.reports, ← hy.reports]
    cases x <;> simp [Bind.bind, Except.bind]

/-- What is told as a text is the reason and the two values of the first comparison that does not
agree. -/
theorem message_eq_iff {cs : List Comparison} {r : Except Mismatch Unit} (h : Compares cs r)
    (text : String) : r.mapError Mismatch.message = .error text ↔
      ∃ before c after, cs = before ++ c :: after ∧ (∀ b ∈ before, b.Agrees) ∧ ¬c.Agrees ∧
        text = "assertion `left == right` failed: " ++ c.reason ++
          "\n  left: " ++ (c.inspect c.actual).line ++
          "\n right: " ++ (c.inspect c.wanted).line := by
  constructor
  · intro htext
    cases r with
    | ok u => cases htext
    | error m =>
      obtain ⟨before, c, after, hsplit, hbefore, hc, rfl⟩ := (h.reports m).mp rfl
      exact ⟨before, c, after, hsplit, hbefore, hc, (Except.error.inj htext).symm⟩
  · rintro ⟨before, c, after, hsplit, hbefore, hc, rfl⟩
    rw [(h.reports c.mismatch).mpr ⟨before, c, after, hsplit, hbefore, hc, rfl⟩]
    rfl

end Compares

/-! ### The comparisons of each expectation -/

def Item.comparisons (i : Item) (formula : String) (aliasName : Option String) :
    List Comparison := [
  ⟨String, .text, "Expected formula '" ++ formula ++ "', found '" ++ i.formula ++ "'",
    i.formula, formula⟩,
  ⟨Option String, .ofOption .text, "Selection alias mismatch", i.aliasName, aliasName⟩]

def Source.comparisons (s : Source) (table : String) (aliasName : Option String) :
    List Comparison := [
  ⟨String, .text, "Table name mismatch", s.table, table⟩,
  ⟨Option String, .ofOption .text, "Table alias mismatch", s.aliasName, aliasName⟩]

def Predicate.comparisons (p : Predicate) (formula token : String) : List Comparison := [
  ⟨String, .text, "Predicate formula mismatch", p.formula, formula⟩,
  ⟨String, .text, "Expected operator '" ++ token ++ "' for '" ++ formula ++ "', found '" ++
    p.connective.token ++ "'", p.connective.token, token⟩]

def SortKey.comparisons (k : SortKey) (formula : String) (aliasName : Option String)
    (direction : Direction) : List Comparison :=
  k.item.comparisons formula aliasName ++
    [⟨Direction, Direction.inspect, "Sort direction mismatch", k.direction, direction⟩]

def formulaComparisons (items : List Item) (wanted : List String) : List Comparison :=
  [⟨List String, fun l => .list (l.map .text), "Selection order mismatch",
    items.map (·.formula), wanted⟩]

theorem Item.compares (i : Item) (formula : String) (aliasName : Option String) :
    Compares (i.comparisons formula aliasName) (i.expect formula aliasName) :=
  (Compares.unlessEq ..).bind (.unlessEq ..)

theorem Source.compares (s : Source) (table : String) (aliasName : Option String) :
    Compares (s.comparisons table aliasName) (s.expect table aliasName) :=
  (Compares.unlessEq ..).bind (.unlessEq ..)

theorem Predicate.compares (p : Predicate) (formula token : String) :
    Compares (p.comparisons formula token) (p.expect formula token) :=
  (Compares.unlessEq ..).bind (.unlessEq ..)

theorem SortKey.compares (k : SortKey) (formula : String) (aliasName : Option String)
    (direction : Direction) :
    Compares (k.comparisons formula aliasName direction) (k.expect formula aliasName direction) :=
  (k.item.compares formula aliasName).bind (.unlessEq ..)

theorem formulas_compare (items : List Item) (wanted : List String) :
    Compares (formulaComparisons items wanted) (expectFormulas items wanted) :=
  .unlessEq ..

/-! ### Passing -/

theorem Item.expect_eq_ok_iff (i : Item) (formula : String) (aliasName : Option String) :
    i.expect formula aliasName = .ok () ↔ i = ⟨formula, aliasName⟩ := by
  rw [(i.compares formula aliasName).passes, comparisons, List.forall_mem_cons,
    List.forall_mem_singleton, Item.mk.injEq, Comparison.Agrees, Comparison.Agrees]

theorem Source.expect_eq_ok_iff (s : Source) (table : String) (aliasName : Option String) :
    s.expect table aliasName = .ok () ↔ s = ⟨table, aliasName⟩ := by
  rw [(s.compares table aliasName).passes, comparisons, List.forall_mem_cons,
    List.forall_mem_singleton, Source.mk.injEq, Comparison.Agrees, Comparison.Agrees]

/-- Only the token of the connective is compared, and it tells which connective it is. -/
theorem Predicate.expect_eq_ok_iff (p : Predicate) (formula token : String) :
    p.expect formula token = .ok () ↔ p = .of formula (some (.ofToken token)) := by
  rw [(p.compares formula token).passes, comparisons, List.forall_mem_cons,
    List.forall_mem_singleton, Predicate.of, Option.getD_some, Predicate.mk.injEq,
    ← Connective.token_eq_iff, Comparison.Agrees, Comparison.Agrees]

theorem SortKey.expect_eq_ok_iff (k : SortKey) (formula : String) (aliasName : Option String)
    (direction : Direction) :
    k.expect formula aliasName direction = .ok () ↔ k = ⟨⟨formula, aliasName⟩, direction⟩ := by
  rw [(k.compares formula aliasName direction).passes, comparisons, List.forall_mem_append,
    ← (k.item.compares formula aliasName).passes, Item.expect_eq_ok_iff,
    List.forall_mem_singleton, Comparison.Agrees, SortKey.mk.injEq]

theorem expectFormulas_eq_ok_iff (items : List Item) (wanted : List String) :
    expectFormulas items wanted = .ok () ↔ items.map (·.formula) = wanted := by
  rw [(formulas_compare items wanted).passes, formulaComparisons, List.forall_mem_singleton,
    Comparison.Agrees]

/-- What every expectation passes for, and what it reports when it does not pass. -/
structure ExpectationsTell : Prop where
  item : ∀ (i : Item) formula aliasName,
    (i.expect formula aliasName = .ok () ↔ i = ⟨formula, aliasName⟩) ∧
      Compares (i.comparisons formula aliasName) (i.expect formula aliasName)
  source : ∀ (s : Source) table aliasName,
    (s.expect table aliasName = .ok () ↔ s = ⟨table, aliasName⟩) ∧
      Compares (s.comparisons table aliasName) (s.expect table aliasName)
  predicate : ∀ (p : Predicate) formula token,
    (p.expect formula token = .ok () ↔ p = .of formula (some (.ofToken token))) ∧
      Compares (p.comparisons formula token) (p.expect formula token)
  sortKey : ∀ (k : SortKey) formula aliasName direction,
    (k.expect formula aliasName direction = .ok () ↔
        k = ⟨⟨formula, aliasName⟩, direction⟩) ∧
      Compares (k.comparisons formula aliasName direction)
        (k.expect formula aliasName direction)
  /-- A view of items is expected to read these formulas, in this order and no others. -/
  formulas : ∀ (store : Store) (n : Nat) wanted,
    (expectFormulas (View.read ⟨n, .select⟩ store) wanted = .ok () ↔
        (store.get n).formulas .select = wanted) ∧
      (expectFormulas (View.read ⟨n, .group⟩ store) wanted = .ok () ↔
        (store.get n).formulas .group = wanted) ∧
      ∀ items, Compares (formulaComparisons items wanted) (expectFormulas items wanted)
  /-- The text of a failed expectation is made of the reason and the two values of the first
  comparison that does not agree. -/
  message : ∀ cs r, Compares cs r → ∀ text, r.mapError Mismatch.message = .error text ↔
    ∃ before c after, cs = before ++ c :: after ∧ (∀ b ∈ before, b.Agrees) ∧ ¬c.Agrees ∧
      text = "assertion `left == right` failed: " ++ c.reason ++
        "\n  left: " ++ (c.inspect c.actual).line ++ "\n right: " ++ (c.inspect c.wanted).line

theorem expectations_tell : ExpectationsTell where
  item i formula aliasName := ⟨i.expect_eq_ok_iff formula aliasName, i.compares formula aliasName⟩
  source s table aliasName := ⟨s.expect_eq_ok_iff table aliasName, s.compares table aliasName⟩
  predicate p formula token := ⟨p.expect_eq_ok_iff formula token, p.compares formula token⟩
  sortKey k formula aliasName direction :=
    ⟨k.expect_eq_ok_iff formula aliasName direction, k.compares formula aliasName direction⟩
  formulas store n wanted :=
    ⟨expectFormulas_eq_ok_iff ((store.get n).entries .select) wanted,
      expectFormulas_eq_ok_iff ((store.get n).entries .group) wanted,
      fun items => formulas_compare items wanted⟩
  message _ _ h := h.message_eq_iff

/-- The alias and the direction differ. The alias is reported, since it is compared first. -/
theorem expectations_tell_of_two_differences :
    let k : SortKey := ⟨⟨"a", some "x"⟩, .descending⟩
    Compares (k.comparisons "a" none .ascending) (k.expect "a" none .ascending) ∧
    (k.expect "a" none .ascending).mapError Mismatch.message = .error
      ("assertion `left == right` failed: Selection alias mismatch" ++
        "\n  left: Some(\"x\")\n right: None") := by
  intro k
  have hcompares := (expectations_tell.sortKey k "a" none .ascending).2
  refine ⟨hcompares, (expectations_tell.message _ _ hcompares _).mpr ?_⟩
  -- The formulas agree, the aliases do not, and the directions are not looked at.
  refine ⟨[_], _, [_], rfl, List.forall_mem_singleton.mpr rfl, ?_, by decide⟩
  exact Option.some_ne_none "x"

end SelectQuery
