import Mathlib.Data.List.Infix

/-!
# Nesting depth

How many parentheses are open after a text, and the texts that close all they open and none that
they did not open. Such texts may be put one after the other and between parentheses.
-/

namespace SelectQuery.Text

/-- The parentheses that are open after a text; below zero when more are closed than opened. -/
def depth (cs : List Char) : Int := cs.count '(' - cs.count ')'

/-- No start of the text closes more than it opens, and the whole closes all that it opens. -/
structure Balanced (t : String) : Prop where
  nonneg : ∀ start, start <+: t.toList → 0 ≤ depth start
  closed : depth t.toList = 0

instance (t : String) : Decidable (Balanced t) :=
  decidable_of_iff ((∀ start ∈ t.toList.inits, 0 ≤ depth start) ∧ depth t.toList = 0) <| by
    simp only [List.mem_inits]
    exact ⟨fun h => ⟨h.1, h.2⟩, fun h => ⟨h.nonneg, h.closed⟩⟩

@[simp] theorem depth_nil : depth [] = 0 := rfl

@[simp] theorem depth_append (xs ys : List Char) : depth (xs ++ ys) = depth xs + depth ys := by
  simp only [depth, List.count_append]
  omega

/-- A text without parentheses. -/
theorem balanced_of_notMem {t : String} (hopen : '(' ∉ t.toList) (hclose : ')' ∉ t.toList) :
    Balanced t := by
  have hflat : ∀ cs, cs ⊆ t.toList → depth cs = 0 := by
    intro cs hcs
    rw [depth, List.count_eq_zero_of_not_mem fun h => hopen (hcs h),
      List.count_eq_zero_of_not_mem fun h => hclose (hcs h)]
    rfl
  exact ⟨fun start hstart => Int.le_of_eq (hflat start hstart.subset).symm,
    hflat _ (List.Subset.refl _)⟩

theorem Balanced.append {x y : String} (hx : Balanced x) (hy : Balanced y) : Balanced (x ++ y) where
  nonneg := by
    intro start hstart
    rw [String.toList_append] at hstart
    rcases List.prefix_or_prefix_of_prefix hstart (List.prefix_append _ _) with hshort | hlong
    · exact hx.nonneg start hshort
    · obtain ⟨rest, rfl⟩ := hlong
      have hrest : rest <+: y.toList := (List.prefix_append_right_inj x.toList).mp hstart
      rw [depth_append, hx.closed, Int.zero_add]
      exact hy.nonneg rest hrest
  closed := by
    rw [String.toList_append, depth_append, hx.closed, hy.closed]
    rfl

theorem Balanced.between {t : String} (ht : Balanced t) : Balanced ("(" ++ t ++ ")") where
  nonneg := by
    intro start hstart
    rw [String.toList_append, String.toList_append] at hstart
    change start <+: '(' :: t.toList ++ [')'] at hstart
    rcases List.prefix_concat_iff.mp hstart with rfl | hinner
    · rw [depth_append, ← List.singleton_append, depth_append, ht.closed]
      decide
    · rcases List.prefix_cons_iff.mp hinner with rfl | ⟨front, rfl, hfront⟩
      · exact Int.le_refl 0
      · have hnonneg : 0 ≤ depth front := ht.nonneg front hfront
        have hopen : depth ['('] = 1 := rfl
        rw [← List.singleton_append, depth_append, hopen]
        omega
  closed := by
    rw [String.toList_append, String.toList_append, depth_append, depth_append, ht.closed]
    rfl

end SelectQuery.Text
