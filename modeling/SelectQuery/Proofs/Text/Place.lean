import Mathlib.Data.List.Infix
import SelectQuery.Proofs.Text.Rows
import SelectQuery.Render.Keywords

/-!
# Where a word stands in a text

A character that is not in a word parts a text: the word cannot lie across it. So a text put
together with such gaps lacks a word when its parts do (`Lacks.append_gap`, `Lacks.intercalate`),
and the first place of a word is found by passing over the lines that lack it (`firstPlace?_lines`).
Of a word with a gap of its own only what comes before that has to be looked for.
-/

namespace SelectQuery.Text

/-- The word stands nowhere in the text. -/
def Lacks (text word : String) : Prop := ¬ word.toList <:+: text.toList

instance (text word : String) : Decidable (Lacks text word) := inferInstanceAs (Decidable (¬ _))

/-- No character of the gap is in the word. -/
def Apart (gap word : String) : Prop := ∀ g ∈ gap.toList, g ∉ word.toList

instance (gap word : String) : Decidable (Apart gap word) := List.decidableBAll _ _

theorem prefix_of_prefix_append_gap {w xs ys : List Char} {g : Char} (hg : g ∉ w)
    (h : w <+: xs ++ g :: ys) : w <+: xs := by
  rcases List.prefix_or_prefix_of_prefix h (List.prefix_append xs (g :: ys)) with hshort | hlong
  · exact hshort
  · obtain ⟨zs, rfl⟩ := hlong
    have hrest : zs <+: g :: ys := (List.prefix_append_right_inj xs).mp h
    rcases List.prefix_cons_iff.mp hrest with rfl | ⟨t, rfl, -⟩
    · exact List.prefix_rfl.trans (by rw [List.append_nil])
    · exact absurd (List.mem_append_right xs List.mem_cons_self) hg

theorem infix_append_gap {w xs ys : List Char} {g : Char} (hg : g ∉ w) (h : w <:+: xs ++ g :: ys) :
    w <:+: xs ∨ w <:+: ys := by
  induction xs with
  | nil =>
    rcases List.infix_cons_iff.mp h with hstart | hrest
    · have hnil : w <+: [] := prefix_of_prefix_append_gap hg hstart
      exact .inl hnil.isInfix
    · exact .inr hrest
  | cons x xs ih =>
    rcases List.infix_cons_iff.mp h with hstart | hrest
    · have hfirst : w <+: x :: xs := prefix_of_prefix_append_gap hg hstart
      exact .inl hfirst.isInfix
    · exact (ih hrest).imp_left List.infix_cons

theorem infix_gap_append {w gap ys : List Char} (hne : w ≠ []) (hgap : ∀ g ∈ gap, g ∉ w)
    (h : w <:+: gap ++ ys) : w <:+: ys := by
  induction gap with
  | nil => exact h
  | cons g gs ih =>
    obtain ⟨hg, hgs⟩ := List.forall_mem_cons.mp hgap
    have hcut : w <:+: [] ∨ w <:+: gs ++ ys := infix_append_gap hg h
    rcases hcut with hnil | hrest
    · exact absurd (List.infix_nil.mp hnil) hne
    · exact ih hgs hrest

namespace Lacks

variable {word x y gap : String}

theorem toList_ne_nil (h : Lacks x word) : word.toList ≠ [] := by
  intro hnil
  apply h
  rw [hnil]
  exact List.nil_infix

theorem append_gap (hx : Lacks x word) (hy : Lacks y word) (hne : gap ≠ "")
    (hgap : Apart gap word) : Lacks (x ++ gap ++ y) word := by
  intro h
  rw [String.toList_append, String.toList_append, List.append_assoc] at h
  have hlist : gap.toList ≠ [] := fun hnil => hne (String.toList_eq_nil_iff.mp hnil)
  obtain ⟨g, gs, hcons⟩ := List.exists_cons_of_ne_nil hlist
  rw [Apart, hcons] at hgap
  rw [hcons] at h
  obtain ⟨hg, hgs⟩ := List.forall_mem_cons.mp hgap
  rcases infix_append_gap hg h with hfirst | hrest
  · exact hx hfirst
  · exact hy (infix_gap_append hx.toList_ne_nil hgs hrest)

theorem intercalate {xs : List String} (hword : word ≠ "") (hxs : ∀ x ∈ xs, Lacks x word)
    (hne : gap ≠ "") (hgap : Apart gap word) :
    Lacks (gap.intercalate xs) word := by
  induction xs with
  | nil => exact fun h => hword (String.toList_eq_nil_iff.mp (List.infix_nil.mp h))
  | cons x xs ih =>
    obtain ⟨hx, hxs⟩ := List.forall_mem_cons.mp hxs
    cases xs with
    | nil => simpa using hx
    | cons x' xs =>
      rw [String.intercalate_cons_cons]
      exact hx.append_gap (ih hxs) hne hgap

end Lacks

/-! ### First places -/

theorem firstPlace?_eq_none {w cs : List Char} (h : ¬ w <:+: cs) : firstPlace? w cs = none := by
  induction cs with
  | nil =>
    have hne : w ≠ [] := fun hnil => h (by rw [hnil])
    rw [firstPlace?, if_neg (by rwa [List.isEmpty_iff])]
  | cons c cs ih =>
    have hstart : ¬ w <+: c :: cs := fun hprefix => h hprefix.isInfix
    rw [firstPlace?, if_neg (by rwa [List.isPrefixOf_iff_prefix]),
      ih fun hinfix => h (List.infix_cons hinfix)]
    rfl

theorem firstPlace?_append_self {w : List Char} (rest : List Char) :
    firstPlace? w (w ++ rest) = some 0 := by
  cases hcs : w ++ rest with
  | nil => rw [firstPlace?, (List.append_eq_nil_iff.mp hcs).1]; rfl
  | cons c cs =>
    have hstart : w <+: c :: cs := hcs ▸ List.prefix_append w rest
    rw [firstPlace?, if_pos (List.isPrefixOf_iff_prefix.mpr hstart)]

/-- A line that lacks the start of a word is passed over with the gap after it. -/
theorem firstPlace?_append_gap {start rest line cs : List Char} {g : Char} (hg : g ∉ start)
    (hline : ¬ start <:+: line) :
    firstPlace? (start ++ rest) (line ++ g :: cs) =
      (firstPlace? (start ++ rest) cs).map (· + (line ++ [g]).length) := by
  have hpass : ∀ xs, ¬ start <+: xs → ¬ start ++ rest <+: xs ++ g :: cs := fun xs hxs hword =>
    hxs (prefix_of_prefix_append_gap hg ((List.prefix_append start rest).trans hword))
  induction line with
  | nil =>
    have hstart := hpass [] fun hprefix => hline hprefix.isInfix
    rw [List.nil_append] at hstart
    rw [List.nil_append, firstPlace?, if_neg (by rwa [List.isPrefixOf_iff_prefix])]
    rfl
  | cons c line ih =>
    have hstart := hpass (c :: line) fun hprefix => hline hprefix.isInfix
    rw [List.cons_append] at hstart
    rw [List.cons_append, firstPlace?, if_neg (by rwa [List.isPrefixOf_iff_prefix]),
      ih fun hinfix => hline (List.infix_cons hinfix), Option.map_map]
    rfl

/-- The first place of a word after lines that lack its start. -/
theorem firstPlace?_lines {start rest cs : List Char} {lines : List (List Char)} {g : Char}
    (hg : g ∉ start) (hlines : ∀ l ∈ lines, ¬ start <:+: l) :
    firstPlace? (start ++ rest) (lines.flatMap (· ++ [g]) ++ (start ++ rest ++ cs)) =
      some (lines.flatMap (· ++ [g])).length := by
  induction lines with
  | nil => exact firstPlace?_append_self cs
  | cons l lines ih =>
    obtain ⟨hl, hlines⟩ := List.forall_mem_cons.mp hlines
    rw [List.flatMap_cons, List.append_assoc, List.append_assoc, List.singleton_append,
      firstPlace?_append_gap hg hl, ih hlines, Option.map_some]
    exact congrArg some ((Nat.add_comm ..).trans List.length_append.symm)

end SelectQuery.Text
