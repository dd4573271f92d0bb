import SelectQuery.Live.Store
import SelectQuery.Proofs.Text.Inspect

/-!
# Inspected queries are told apart

The inspection text of a query on one line says which query it is, whatever its formulas, aliases
and tokens hold; so does that of a list of entries, and that of a single entry. Main statement:
`inspection_tells`.
-/

namespace SelectQuery

open Inspect

/-! ### Entries -/

namespace Item

def parts : List (Shown Item) := [⟨String, "formula", (·.formula), .text⟩,
  ⟨Option String, "alias", (·.aliasName), .ofOption .text⟩]

theorem tells : Tells inspect := by
  refine .record parts (fun _ => rfl) ?_ ?_
  · simp only [parts, List.forall_mem_cons]
    exact ⟨.text, .ofOption .text, nofun⟩
  · rintro ⟨⟩ ⟨⟩ h
    simpa [parts] using h

end Item

namespace Source

def parts : List (Shown Source) := [⟨String, "table_name", (·.table), .text⟩,
  ⟨Option String, "alias", (·.aliasName), .ofOption .text⟩]

theorem tells : Tells inspect := by
  refine .record parts (fun _ => rfl) ?_ ?_
  · simp only [parts, List.forall_mem_cons]
    exact ⟨.text, .ofOption .text, nofun⟩
  · rintro ⟨⟩ ⟨⟩ h
    simpa [parts] using h

end Source

namespace Connective

theorem toList_and : and.inspect.line.toList = ['A', 'n', 'd'] := rfl

theorem toList_or : or.inspect.line.toList = ['O', 'r'] := rfl

theorem toList_other (token : String) (free : token ≠ "AND" ∧ token ≠ "OR") :
    (other token free).inspect.line.toList = 'O' :: 't' :: 'h' :: 'e' :: 'r' :: '(' ::
      ((Inspect.wrapped "OperatorToken" (.text token)).line.toList ++ [')']) :=
  Tells.toList_wrapped "Other" _

theorem tells : Tells inspect := by
  intro c d r s h
  cases c with
  | and =>
    cases d with
    | and => exact ⟨rfl, List.append_cancel_left h⟩
    | or => simp [toList_and, toList_or] at h
    | other u free' => simp [toList_and, toList_other] at h
  | or =>
    cases d with
    | and => simp [toList_and, toList_or] at h
    | or => exact ⟨rfl, List.append_cancel_left h⟩
    | other u free' => simp [toList_or, toList_other] at h
  | other t free =>
    cases d with
    | and => simp [toList_and, toList_other] at h
    | or => simp [toList_or, toList_other] at h
    | other u free' =>
      obtain ⟨rfl, hrest⟩ := (Tells.text.wrapped "OperatorToken").wrapped "Other" t u r s h
      exact ⟨rfl, hrest⟩

end Connective

namespace Predicate

def parts : List (Shown Predicate) := [⟨String, "formula", (·.formula), .text⟩,
  ⟨Connective, "operator", (·.connective), Connective.inspect⟩]

theorem tells : Tells inspect := by
  refine .record parts (fun _ => rfl) ?_ ?_
  · simp only [parts, List.forall_mem_cons]
    exact ⟨.text, Connective.tells, nofun⟩
  · rintro ⟨⟩ ⟨⟩ h
    simpa [parts] using h

end Predicate

theorem Direction.tells : Tells inspect := by
  have hname : ∀ d e : Direction, d.name.toList <+: e.name.toList → d = e := by
    intro d e h
    cases d <;> cases e <;> first | rfl | exact absurd h (by decide)
  exact .atom hname

theorem Join.tells : Tells inspect := by
  have hname : ∀ j k : Join, j.name.toList <+: k.name.toList → j = k := by
    intro j k h
    cases j <;> cases k <;> first | rfl | exact absurd h (by decide)
  exact .atom hname

namespace SortKey

def parts : List (Shown SortKey) := [⟨Item, "selection", (·.item), Item.inspect⟩,
  ⟨Direction, "direction", (·.direction), Direction.inspect⟩]

theorem tells : Tells inspect := by
  refine .record parts (fun _ => rfl) ?_ ?_
  · simp only [parts, List.forall_mem_cons]
    exact ⟨Item.tells, Direction.tells, nofun⟩
  · rintro ⟨⟩ ⟨⟩ h
    simpa [parts] using h

end SortKey

/-! ### Lists of entries -/

namespace Clause

theorem tells (c : Clause) : Tells c.entryInspect := by
  cases c with
  | select => exact Item.tells
  | source => exact Source.tells
  | filter => exact Predicate.tells
  | group => exact Item.tells
  | having => exact Predicate.tells
  | order => exact SortKey.tells

theorem opensItem (c : Clause) : OpensItem c.entryInspect := by
  cases c with
  | select => exact .record rfl (by decide) fun _ => ⟨_, rfl⟩
  | source => exact .record rfl (by decide) fun _ => ⟨_, rfl⟩
  | filter => exact .record rfl (by decide) fun _ => ⟨_, rfl⟩
  | group => exact .record rfl (by decide) fun _ => ⟨_, rfl⟩
  | having => exact .record rfl (by decide) fun _ => ⟨_, rfl⟩
  | order => exact .record rfl (by decide) fun _ => ⟨_, rfl⟩

theorem tells_list (c : Clause) :
    Tells fun es : List c.Entry => .list (es.map c.entryInspect) :=
  c.tells.list c.opensItem

end Clause

/-! ### Queries -/

namespace Query

def parts : List (Shown Query) :=
  ⟨Bool, "distinct", (·.distinct), .bool⟩ :: Clause.all.map fun c =>
    ⟨List c.Entry, c.listName, (·.entries c), fun es => .list (es.map c.entryInspect)⟩

theorem tells : Tells inspect := by
  refine .record parts (fun _ => rfl) ?_ fun q₁ q₂ h => ?_
  · simp only [parts, List.forall_mem_cons, List.forall_mem_map]
    exact ⟨.bool, fun c _ => c.tells_list⟩
  · simp only [parts, List.forall_mem_cons, List.forall_mem_map] at h
    exact ext_entries h.1 fun c => h.2 c c.mem_all

end Query

/-- Texts of inspection are equal exactly when what they show is: for queries, for two views of
entries of one type, which may be of two clauses, and for entries and their parts. -/
structure InspectionTells : Prop where
  query : ∀ q₁ q₂ : Query, q₁.inspect.line = q₂.inspect.line ↔
    q₁.distinct = q₂.distinct ∧ ∀ c, q₁.entries c = q₂.entries c
  view : ∀ (c : Clause) (es₁ es₂ : List c.Entry),
    (Snapshot.mk c es₁).inspect.line = (Snapshot.mk c es₂).inspect.line ↔ es₁ = es₂
  view_items : ∀ es₁ es₂ : List Item,
    (Snapshot.mk .select es₁).inspect.line = (Snapshot.mk .group es₂).inspect.line ↔ es₁ = es₂
  view_predicates : ∀ es₁ es₂ : List Predicate,
    (Snapshot.mk .filter es₁).inspect.line = (Snapshot.mk .having es₂).inspect.line ↔ es₁ = es₂
  item : ∀ i j : Item, i.inspect.line = j.inspect.line ↔ i = j
  source : ∀ t u : Source, t.inspect.line = u.inspect.line ↔ t = u
  predicate : ∀ p q : Predicate, p.inspect.line = q.inspect.line ↔ p = q
  sortKey : ∀ k l : SortKey, k.inspect.line = l.inspect.line ↔ k = l
  connective : ∀ c d : Connective, c.inspect.line = d.inspect.line ↔ c = d
  direction : ∀ d e : Direction, d.inspect.line = e.inspect.line ↔ d = e
  join : ∀ j k : Join, j.inspect.line = k.inspect.line ↔ j = k

theorem inspection_tells : InspectionTells where
  query := by
    intro q₁ q₂
    rw [Query.tells.line_eq_iff]
    constructor
    · rintro rfl
      exact ⟨rfl, fun _ => rfl⟩
    · rintro ⟨hdistinct, hentries⟩
      exact Query.ext_entries hdistinct hentries
  view := fun c => c.tells_list.line_eq_iff
  view_items := (Clause.tells_list .select).line_eq_iff
  view_predicates := (Clause.tells_list .filter).line_eq_iff
  item := Item.tells.line_eq_iff
  source := Source.tells.line_eq_iff
  predicate := Predicate.tells.line_eq_iff
  sortKey := SortKey.tells.line_eq_iff
  connective := Connective.tells.line_eq_iff
  direction := Direction.tells.line_eq_iff
  join := Join.tells.line_eq_iff

end SelectQuery
