import SelectQuery.Proofs.Text.Quoted
import SelectQuery.Text.Inspect

/-!
# Inspection texts are told apart

A way of inspecting tells values apart when the text on one line says which value it shows and where
it ends (`Inspect.Tells`). Texts and names do so, and options, lists and records of what does so do
it again. What is between the parts of a record is fixed, so the parts are read off one after the
other (`Tells.record`).
-/

namespace SelectQuery.Inspect

/-- The text of a value can be told from that of any other, whatever follows it. -/
def Tells {α : Type} (view : α → Inspect) : Prop := SelfDelimiting fun a => (view a).line.toList

/-- Every text starts, and with another character than the one that closes a list. -/
def OpensItem {α : Type} (view : α → Inspect) : Prop :=
  ∀ a, ∃ c cs, (view a).line.toList = c :: cs ∧ c ≠ ']'

/-- A part of a value that is shown under a key. -/
structure Shown (σ : Type) where
  Value : Type
  key : String
  get : σ → Value
  view : Value → Inspect

def Shown.field {σ : Type} (x : σ) (p : Shown σ) : String × Inspect := (p.key, p.view (p.get x))

namespace Tells

variable {α σ : Type} {view : α → Inspect}

theorem line_eq_iff (h : Tells view) (a b : α) : (view a).line = (view b).line ↔ a = b := by
  rw [← String.toList_inj]
  exact h.eq_iff a b

/-! ### Texts and names -/

theorem text : Tells Inspect.text := Text.selfDelimiting_quoted

theorem atom {name : α → String} (h : ∀ a b, (name a).toList <+: (name b).toList → a = b) :
    Tells fun a => .atom (name a) :=
  .of_words h

theorem bool : Tells Inspect.bool := by
  refine atom fun a b h => ?_
  cases a <;> cases b <;> first | rfl | exact absurd h (by decide)

/-! ### Wrappers and options -/

theorem toList_wrapped (name : String) (v : Inspect) :
    (wrapped name v).line.toList = name.toList ++ '(' :: (v.line.toList ++ [')']) := by
  rw [line]
  simp only [String.toList_append, List.append_assoc]
  rfl

theorem wrapped (name : String) (h : Tells view) : Tells fun a => .wrapped name (view a) := by
  intro a b r s hwhole
  simp only [toList_wrapped, List.append_assoc, List.cons_append] at hwhole
  obtain ⟨rfl, hrest⟩ := h a b _ _ (List.cons.inj (List.append_cancel_left hwhole)).2
  exact ⟨rfl, (List.cons.inj hrest).2⟩

theorem ofOption (h : Tells view) : Tells (Inspect.ofOption view) := by
  have hnone : ∀ a r s, (Inspect.ofOption view none).line.toList ++ r ≠
      (Inspect.ofOption view (some a)).line.toList ++ s := by
    intro a r s hwhole
    rw [Inspect.ofOption, Inspect.ofOption, toList_wrapped] at hwhole
    exact absurd (List.cons.inj hwhole).1 (by decide)
  intro o o' r s hwhole
  cases o with
  | none =>
    cases o' with
    | none => exact ⟨rfl, List.append_cancel_left hwhole⟩
    | some b => exact absurd hwhole (hnone b r s)
  | some a =>
    cases o' with
    | none => exact absurd hwhole.symm (hnone a s r)
    | some b =>
      obtain ⟨rfl, hrest⟩ := h.wrapped "Some" a b r s hwhole
      exact ⟨rfl, hrest⟩

/-! ### Lists -/

theorem toList_lineItems (vs : List Inspect) :
    (lineItems vs).toList = vs.flatMap (fun v => ',' :: ' ' :: v.line.toList) ++ [']'] := by
  induction vs with
  | nil => rfl
  | cons v vs ih =>
    rw [lineItems, List.flatMap_cons, List.append_assoc, ← ih]
    simp only [String.toList_append, List.append_assoc]
    rfl

theorem toList_list_cons (v : Inspect) (vs : List Inspect) :
    (list (v :: vs)).line.toList = '[' :: (v.line.toList ++ (lineItems vs).toList) := by
  rw [line]
  simp only [String.toList_append, List.append_assoc]
  rfl

theorem lineItems_inj (h : Tells view) {as bs : List α} {r s : List Char}
    (hwhole : (lineItems (as.map view)).toList ++ r = (lineItems (bs.map view)).toList ++ s) :
    as = bs ∧ r = s := by
  have hitem : SelfDelimiting fun a => ',' :: ' ' :: (view a).line.toList := fun a b r s hwhole =>
    h a b r s (List.cons.inj (List.cons.inj hwhole).2).2
  rw [toList_lineItems, toList_lineItems, List.append_assoc, List.append_assoc,
    List.flatMap_map, List.flatMap_map] at hwhole
  exact hitem.flatMap (fun _ => ⟨_, _, rfl, by decide⟩) hwhole

/-- A list shows its items and how many there are. -/
theorem list (h : Tells view) (hopens : OpensItem view) :
    Tells fun as : List α => .list (as.map view) := by
  have hnil : ∀ b bs r s, (Inspect.list []).line.toList ++ r ≠
      (Inspect.list (view b :: bs)).line.toList ++ s := by
    intro b bs r s hwhole
    obtain ⟨c, cs, hb, hc⟩ := hopens b
    rw [toList_list_cons, hb] at hwhole
    exact hc (List.cons.inj (List.cons.inj hwhole).2).1.symm
  intro as bs r s hwhole
  cases as with
  | nil =>
    cases bs with
    | nil => exact ⟨rfl, List.append_cancel_left hwhole⟩
    | cons b bs => exact absurd hwhole (hnil b _ r s)
  | cons a as =>
    cases bs with
    | nil => exact absurd hwhole.symm (hnil a _ s r)
    | cons b bs =>
      simp only [List.map_cons, toList_list_cons, List.cons_append, List.append_assoc] at hwhole
      obtain ⟨rfl, hitems⟩ := h a b _ _ (List.cons.inj hwhole).2
      obtain ⟨rfl, hrest⟩ := h.lineItems_inj hitems
      exact ⟨rfl, hrest⟩

/-! ### Records -/

theorem toList_lineFields_cons (k : String) (v : Inspect) (fs : List (String × Inspect)) :
    (lineFields ((k, v) :: fs)).toList =
      ',' :: ' ' :: (k.toList ++ ':' :: ' ' :: (v.line.toList ++ (lineFields fs).toList)) := by
  rw [lineFields]
  simp only [String.toList_append, List.append_assoc]
  rfl

theorem toList_record_cons (name k : String) (v : Inspect) (fs : List (String × Inspect)) :
    (Inspect.record name ((k, v) :: fs)).line.toList = name.toList ++ ' ' :: '\x7b' :: ' ' ::
      (k.toList ++ ':' :: ' ' :: (v.line.toList ++ (lineFields fs).toList)) := by
  rw [line]
  simp only [String.toList_append, List.append_assoc]
  rfl

variable {parts : List (Shown σ)} {x y : σ} {r s : List Char}

/-- The keys are the same on both sides, and the value of a part tells where the next begins. -/
theorem lineFields_inj (h : ∀ p ∈ parts, Tells p.view)
    (hwhole : (lineFields (parts.map (Shown.field x))).toList ++ r =
      (lineFields (parts.map (Shown.field y))).toList ++ s) :
    (∀ p ∈ parts, p.get x = p.get y) ∧ r = s := by
  induction parts with
  | nil => exact ⟨nofun, List.append_cancel_left hwhole⟩
  | cons p parts ih =>
    obtain ⟨hp, hparts⟩ := List.forall_mem_cons.mp h
    simp only [List.map_cons, Shown.field, toList_lineFields_cons, List.cons_append,
      List.append_assoc, List.cons.injEq, true_and, List.append_cancel_left_eq] at hwhole
    obtain ⟨hget, hfields⟩ := hp _ _ _ _ hwhole
    obtain ⟨hgets, hrest⟩ := ih hparts hfields
    exact ⟨List.forall_mem_cons.mpr ⟨hget, hgets⟩, hrest⟩

/-- A record shows its parts, and is told by them when they make it up. -/
theorem record (parts : List (Shown σ)) {view : σ → Inspect} {name : String}
    (hview : ∀ x, view x = .record name (parts.map (Shown.field x)))
    (h : ∀ p ∈ parts, Tells p.view) (hext : ∀ x y, (∀ p ∈ parts, p.get x = p.get y) → x = y) :
    Tells view := by
  intro x y r s hwhole
  simp only [hview] at hwhole
  cases parts with
  | nil => exact ⟨hext x y nofun, List.append_cancel_left hwhole⟩
  | cons p parts =>
    obtain ⟨hp, hparts⟩ := List.forall_mem_cons.mp h
    simp only [List.map_cons, Shown.field, toList_record_cons, List.cons_append,
      List.append_assoc, List.cons.injEq, true_and, List.append_cancel_left_eq] at hwhole
    obtain ⟨hget, hfields⟩ := hp _ _ _ _ hwhole
    obtain ⟨hgets, hrest⟩ := lineFields_inj hparts hfields
    exact ⟨hext x y (List.forall_mem_cons.mpr ⟨hget, hgets⟩), hrest⟩

end Tells

/-- The text of a record starts with its name. -/
theorem OpensItem.record {σ : Type} {view : σ → Inspect} {name : String} {c : Char}
    {cs : List Char} (hname : name.toList = c :: cs) (hc : c ≠ ']')
    (hview : ∀ x, ∃ fields, view x = .record name fields) : OpensItem view := by
  intro x
  obtain ⟨fields, hfields⟩ := hview x
  rw [hfields]
  cases fields with
  | nil => exact ⟨c, cs, hname, hc⟩
  | cons f fs =>
    rw [Tells.toList_record_cons, hname]
    exact ⟨c, _, rfl, hc⟩

end SelectQuery.Inspect
