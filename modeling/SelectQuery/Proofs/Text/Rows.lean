import Mathlib.Data.List.Basic

/-!
# Texts in a row

Texts with a separator between each two, and what of them can be read off the row: all of them, when
the separator's first character is in none of them (`intercalate_singleton_inj`,
`intercalate_comma_inj`). Rows of rows with one separator are a row (`intercalate_flatten`).
-/

namespace SelectQuery.Text

/-- A row with the separator before every text but the first. -/
theorem intercalate_cons_eq_join (sep x : String) (xs : List String) :
    sep.intercalate (x :: xs) = x ++ String.join (xs.map (sep ++ ·)) := by
  induction xs generalizing x with
  | nil => simp
  | cons y ys ih => simp [ih, String.append_assoc]

/-- The end of a separator may be counted to the texts after it. -/
theorem intercalate_append_sep (sep start x : String) (xs : List String) :
    (sep ++ start).intercalate (x :: xs) = sep.intercalate (x :: xs.map (start ++ ·)) := by
  rw [intercalate_cons_eq_join, intercalate_cons_eq_join, List.map_map]
  simp only [Function.comp_def, String.append_assoc]

theorem intercalate_flatten {sep : String} {rows : List (List String)} (h : ∀ r ∈ rows, r ≠ []) :
    sep.intercalate (rows.map sep.intercalate) = sep.intercalate rows.flatten := by
  induction rows with
  | nil => rfl
  | cons r rows ih =>
    have hr : r ≠ [] := h r List.mem_cons_self
    have hrows : ∀ r ∈ rows, r ≠ [] := fun r' hr' => h r' (List.mem_cons_of_mem r hr')
    cases rows with
    | nil => simp
    | cons r' rows =>
      have hflat : (r' :: rows).flatten ≠ [] := by
        rw [List.flatten_cons]
        exact fun hnil => hrows r' List.mem_cons_self (List.append_eq_nil_iff.mp hnil).1
      rw [List.flatten_cons, String.intercalate_append_of_ne_nil hr hflat, ← ih hrows,
        List.map_cons, String.intercalate_cons_of_ne_nil (by simp)]

theorem notMem_intercalate {c : Char} {sep : String} {xs : List String} (hsep : c ∉ sep.toList)
    (hxs : ∀ x ∈ xs, c ∉ x.toList) : c ∉ (sep.intercalate xs).toList := by
  cases xs with
  | nil => simp
  | cons x xs =>
    obtain ⟨hx, hxs⟩ := List.forall_mem_cons.mp hxs
    rw [intercalate_cons_eq_join, String.toList_append, String.toList_join]
    simp only [List.mem_append, List.mem_flatMap, List.mem_map, not_or, not_exists, not_and]
    refine ⟨hx, fun l hl hc => ?_⟩
    obtain ⟨y, hy, rfl⟩ := hl
    rw [String.toList_append, List.mem_append] at hc
    exact hc.elim hsep (hxs y hy)

theorem intercalate_singleton_inj {c : Char} {xs ys : List String} (hxs : xs ≠ []) (hys : ys ≠ [])
    (hx : ∀ x ∈ xs, c ∉ x.toList) (hy : ∀ y ∈ ys, c ∉ y.toList)
    (h : (String.singleton c).intercalate xs = (String.singleton c).intercalate ys) : xs = ys := by
  have hlists : ∀ {zs : List String}, zs ≠ [] → (∀ z ∈ zs, c ∉ z.toList) →
      ((String.singleton c).intercalate zs).toList.splitOn c = zs.map String.toList := by
    intro zs hne hz
    rw [String.toList_intercalate, String.toList_singleton]
    exact List.splitOn_intercalate c (by simpa using hz) (by simpa using hne)
  have hmaps : xs.map String.toList = ys.map String.toList := by
    rw [← hlists hxs hx, ← hlists hys hy, h]
  exact List.map_injective_iff.mpr (fun _ _ => String.toList_inj.mp) hmaps

theorem intercalate_comma_inj {xs ys : List String} (hxs : xs ≠ []) (hys : ys ≠ [])
    (hx : ∀ x ∈ xs, ',' ∉ x.toList) (hy : ∀ y ∈ ys, ',' ∉ y.toList)
    (h : ", ".intercalate xs = ", ".intercalate ys) : xs = ys := by
  obtain ⟨x, xs, rfl⟩ := List.exists_cons_of_ne_nil hxs
  obtain ⟨y, ys, rfl⟩ := List.exists_cons_of_ne_nil hys
  have hspaced : ∀ {z : String} {zs : List String}, (∀ w ∈ z :: zs, ',' ∉ w.toList) →
      ∀ w ∈ z :: zs.map (" " ++ ·), ',' ∉ w.toList := by
    intro z zs hz w hw
    rcases List.mem_cons.mp hw with rfl | hmem
    · exact hz w List.mem_cons_self
    · obtain ⟨v, hv, rfl⟩ := List.mem_map.mp hmem
      rw [String.toList_append, List.mem_append, not_or]
      exact ⟨by decide, hz v (List.mem_cons_of_mem z hv)⟩
  rw [show ", " = String.singleton ',' ++ " " from rfl, intercalate_append_sep,
    intercalate_append_sep] at h
  have hcons := intercalate_singleton_inj (by simp) (by simp) (hspaced hx) (hspaced hy) h
  obtain ⟨rfl, hmaps⟩ := List.cons.inj hcons
  rw [List.map_injective_iff.mpr (fun _ _ => (String.append_right_inj " ").mp) hmaps]

end SelectQuery.Text
