import SelectQuery.Text.Blank

/-!
# Words of texts in a row

A separator of blanks belongs to no word, so texts in a row have the words of each text, one after
the other, whatever blanks stand between them (`words_intercalate`).
-/

namespace SelectQuery.Text

theorem words_cons_blank {c : Char} (hc : isBlankChar c = true) (cs : List Char) :
    words (c :: cs) = words cs :=
  words_append_blank hc [] cs

theorem words_blank_append {gap : List Char} (hgap : gap.all isBlankChar = true) (cs : List Char) :
    words (gap ++ cs) = words cs := by
  induction gap with
  | nil => rfl
  | cons c gap ih =>
    obtain ⟨hc, hgap⟩ := Bool.and_eq_true_iff.mp hgap
    rw [List.cons_append, words_cons_blank hc, ih hgap]

/-- Blanks part the words before them from those after them, however many they are. -/
theorem words_append_gap {gap : List Char} (hne : gap ≠ []) (hgap : gap.all isBlankChar = true)
    (xs ys : List Char) : words (xs ++ (gap ++ ys)) = words xs ++ words ys := by
  obtain ⟨c, gap, rfl⟩ := List.exists_cons_of_ne_nil hne
  obtain ⟨hc, hgap⟩ := Bool.and_eq_true_iff.mp hgap
  rw [List.cons_append, words_append_blank hc, words_blank_append hgap]

theorem words_intercalate {sep : String} (hne : sep ≠ "") (hsep : isBlank sep = true)
    (xs : List String) :
    words (sep.intercalate xs).toList = xs.flatMap fun x => words x.toList := by
  have hlist : sep.toList ≠ [] := fun h => hne (String.toList_eq_nil_iff.mp h)
  induction xs with
  | nil => rfl
  | cons x xs ih =>
    cases xs with
    | nil => simp
    | cons y ys =>
      rw [String.intercalate_cons_cons, String.toList_append, String.toList_append,
        List.append_assoc, words_append_gap hlist hsep, ih]
      rfl

theorem normalizeBlanks_eq_of_words_eq {s t : String} (h : words s.toList = words t.toList) :
    normalizeBlanks s = normalizeBlanks t := by
  rw [normalizeBlanks, normalizeBlanks, h]

end SelectQuery.Text
