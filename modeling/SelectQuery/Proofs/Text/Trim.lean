import Mathlib.Data.List.TakeWhile
import SelectQuery.Text.Blank

/-!
# Trimmed texts

A trimmed text is told by what it was cut from: nothing is left to cut at its ends, and what has
been cut there holds nothing but what is to be cut (`trimBlanks_eq_iff`, `trimEndLines_eq_iff`).
-/

namespace SelectQuery.Text

theorem dropWhile_eq_iff {p : Char → Bool} {cs ds : List Char} :
    cs.dropWhile p = ds ↔
      (∀ c ∈ ds.head?, p c = false) ∧ ∃ run, run.all p = true ∧ cs = run ++ ds := by
  constructor
  · rintro rfl
    refine ⟨fun c hc => ?_, cs.takeWhile p, List.all_takeWhile,
      List.takeWhile_append_dropWhile.symm⟩
    have hhead := List.head?_dropWhile_not p cs
    rw [Option.mem_def.mp hc] at hhead
    exact hhead
  · rintro ⟨hhead, run, hrun, rfl⟩
    rw [List.dropWhile_append_of_pos (List.all_eq_true.mp hrun)]
    cases ds with
    | nil => rfl
    | cons d ds => exact List.dropWhile_cons_of_neg (by simp [hhead d rfl])

theorem dropEndWhile_eq_iff {p : Char → Bool} {cs ds : List Char} :
    dropEndWhile p cs = ds ↔
      (∀ c ∈ ds.getLast?, p c = false) ∧ ∃ run, run.all p = true ∧ cs = ds ++ run := by
  rw [dropEndWhile, List.reverse_eq_iff, dropWhile_eq_iff, List.head?_reverse]
  refine and_congr_right fun _ => ⟨?_, ?_⟩
  · rintro ⟨run, hrun, h⟩
    exact ⟨run.reverse, by rwa [List.all_reverse], by rw [← List.reverse_inj, h]; simp⟩
  · rintro ⟨run, hrun, rfl⟩
    exact ⟨run.reverse, by rwa [List.all_reverse], List.reverse_append⟩

/-- A text with a number of line feeds after it. -/
def withLineFeeds (s : String) (n : Nat) : String := s ++ String.ofList (List.replicate n '\n')

theorem trimEndLines_eq_iff {s t : String} :
    trimEndLines s = t ↔ t.toList.getLast? ≠ some '\n' ∧ ∃ n, s = withLineFeeds t n := by
  have hlast : (∀ c ∈ t.toList.getLast?, (c == '\n') = false) ↔ t.toList.getLast? ≠ some '\n' := by
    cases t.toList.getLast? <;> simp
  rw [trimEndLines, ← String.toList_inj, String.toList_ofList, dropEndWhile_eq_iff, hlast]
  refine and_congr_right fun _ => ⟨?_, ?_⟩
  · rintro ⟨run, hrun, h⟩
    have hfeeds : run = List.replicate run.length '\n' :=
      List.eq_replicate_iff.mpr ⟨rfl, fun c hc => eq_of_beq (List.all_eq_true.mp hrun c hc)⟩
    refine ⟨run.length, String.toList_inj.mp ?_⟩
    rw [h, withLineFeeds, String.toList_append, String.toList_ofList, ← hfeeds]
  · rintro ⟨n, rfl⟩
    refine ⟨List.replicate n '\n', by simp, ?_⟩
    rw [withLineFeeds, String.toList_append, String.toList_ofList]

theorem trimBlanks_eq_iff {s t : String} (hhead : ∀ c ∈ t.toList.head?, isBlankChar c = false)
    (hlast : ∀ c ∈ t.toList.getLast?, isBlankChar c = false) :
    trimBlanks s = t ↔
      ∃ before after, isBlank before = true ∧ isBlank after = true ∧ s = before ++ t ++ after := by
  rw [trimBlanks, ← String.toList_inj, String.toList_ofList, dropEndWhile_eq_iff]
  constructor
  · rintro ⟨-, run, hrun, h⟩
    obtain ⟨-, start, hstart, hs⟩ := dropWhile_eq_iff.mp h
    refine ⟨String.ofList start, String.ofList run, ?_, ?_, String.toList_inj.mp ?_⟩
    · rwa [isBlank, String.toList_ofList]
    · rwa [isBlank, String.toList_ofList]
    · rw [hs, String.toList_append, String.toList_append, String.toList_ofList,
        String.toList_ofList, List.append_assoc]
  · rintro ⟨before, after, hbefore, hafter, rfl⟩
    rw [String.toList_append, String.toList_append, List.append_assoc,
      List.dropWhile_append_of_pos (List.all_eq_true.mp hbefore)]
    cases ht : t.toList with
    | nil =>
      -- With nothing between them, the blanks after go with those before.
      have hnil : after.toList.dropWhile isBlankChar = [] :=
        List.dropWhile_eq_nil_iff.mpr (List.all_eq_true.mp hafter)
      rw [List.nil_append, hnil]
      exact ⟨nofun, [], rfl, rfl⟩
    | cons c cs =>
      rw [ht] at hhead hlast
      rw [List.cons_append, List.dropWhile_cons_of_neg (by simp [hhead c rfl])]
      exact ⟨hlast, after.toList, hafter, rfl⟩

end SelectQuery.Text
