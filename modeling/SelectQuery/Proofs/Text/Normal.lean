import Mathlib.Data.List.Chain
import SelectQuery.Proofs.Text.Words

/-!
# The normal form of a text

The words of a text are told here without cutting it into pieces: a word goes on as far as it can,
and blanks are passed over (`HasWords`). A text is in normal form when its only blanks are single
spaces between words (`IsNormal`). Every sequence of words has one text in normal form, and
`normalizeBlanks` makes that text of all texts with these words. Main statement:
`blanks_normalized`.
-/

namespace SelectQuery.Text

/-! ### Words of a text -/

def IsWord (w : List Char) : Prop := w ≠ [] ∧ ∀ c ∈ w, isBlankChar c = false

/-- The words of a text in order. A word ends only at a blank or with the text. -/
inductive HasWords : List Char → List (List Char) → Prop where
  | nil : HasWords [] []
  | blank {c : Char} {cs : List Char} {ws : List (List Char)} (hc : isBlankChar c = true)
      (h : HasWords cs ws) : HasWords (c :: cs) ws
  | word {w rest : List Char} {ws : List (List Char)} (hw : IsWord w)
      (hend : ∀ c ∈ rest.head?, isBlankChar c = true) (h : HasWords rest ws) :
      HasWords (w ++ rest) (w :: ws)

theorem HasWords.isWord {cs : List Char} {ws : List (List Char)} (h : HasWords cs ws) :
    ∀ w ∈ ws, IsWord w := by
  induction h with
  | nil => exact List.forall_mem_nil _
  | blank hc h ih => exact ih
  | word hw hend h ih => exact List.forall_mem_cons.mpr ⟨hw, ih⟩

theorem exists_hasWords (cs : List Char) : ∃ ws, HasWords cs ws := by
  induction cs with
  | nil => exact ⟨[], .nil⟩
  | cons c cs ih =>
    obtain ⟨ws, h⟩ := ih
    cases hc : isBlankChar c with
    | true => exact ⟨ws, .blank hc h⟩
    | false =>
      have hone : IsWord [c] := ⟨List.cons_ne_nil c [], List.forall_mem_singleton.mpr hc⟩
      -- The character begins a word, or goes on to the one that begins after it.
      cases h with
      | nil => exact ⟨[[c]], .word hone nofun .nil⟩
      | @blank d cs ws hd h =>
        have hend : ∀ e ∈ (d :: cs).head?, isBlankChar e = true := by
          rintro e ⟨⟩
          exact hd
        exact ⟨[c] :: ws, .word hone hend (.blank hd h)⟩
      | @word w rest ws hw hend h =>
        exact ⟨(c :: w) :: ws,
          .word ⟨List.cons_ne_nil c w, List.forall_mem_cons.mpr ⟨hc, hw.2⟩⟩ hend h⟩

theorem words_of_isWord {w : List Char} (h : IsWord w) : words w = [w] := by
  have hpieces : ∀ cs : List Char, (∀ c ∈ cs, isBlankChar c = false) → pieces cs = [cs] := by
    intro cs hcs
    induction cs with
    | nil => rfl
    | cons c cs ih =>
      obtain ⟨hc, hcs⟩ := List.forall_mem_cons.mp hcs
      rw [pieces, hc, ih hcs]
      rfl
  rw [words, hpieces w h.2]
  simp [h.1]

theorem words_word_append {w rest : List Char} (hw : IsWord w)
    (hend : ∀ c ∈ rest.head?, isBlankChar c = true) : words (w ++ rest) = w :: words rest := by
  cases rest with
  | nil =>
    rw [List.append_nil, words_of_isWord hw]
    rfl
  | cons c rest =>
    have hc : isBlankChar c = true := hend c rfl
    rw [words_append_blank hc, words_of_isWord hw, words_cons_blank hc]
    rfl

theorem HasWords.words_eq {cs : List Char} {ws : List (List Char)} (h : HasWords cs ws) :
    words cs = ws := by
  induction h with
  | nil => rfl
  | blank hc h ih => rw [words_cons_blank hc, ih]
  | word hw hend h ih => rw [words_word_append hw hend, ih]

theorem words_eq_iff {cs : List Char} {ws : List (List Char)} : words cs = ws ↔ HasWords cs ws := by
  constructor
  · rintro rfl
    obtain ⟨ws, h⟩ := exists_hasWords cs
    rwa [h.words_eq]
  · exact HasWords.words_eq

/-! ### Normal form -/

structure IsNormal (cs : List Char) : Prop where
  /-- The only blank is the space. -/
  space : ∀ c ∈ cs, isBlankChar c = true → c = ' '
  head : ∀ c ∈ cs.head?, isBlankChar c = false
  last : ∀ c ∈ cs.getLast?, isBlankChar c = false
  /-- No two blanks stand in a row. -/
  single : cs.IsChain fun c d => isBlankChar c = true → isBlankChar d = false

theorem isNormal_nil : IsNormal [] := ⟨nofun, nofun, nofun, .nil⟩

theorem IsWord.isNormal {w : List Char} (h : IsWord w) : IsNormal w where
  space c hc hblank := absurd hblank (by simp [h.2 c hc])
  head c hc := h.2 c (List.mem_of_mem_head? hc)
  last c hc := h.2 c (List.mem_of_mem_getLast? hc)
  single := by
    refine (List.pairwise_of_forall_mem_list ?_).isChain
    intro c _ d hd _
    exact h.2 d hd

/-- A word and a space may come before a text in normal form, unless that is empty. -/
theorem isNormal_word_append_iff {w rest : List Char} (hw : IsWord w) :
    IsNormal (w ++ ' ' :: rest) ↔ rest ≠ [] ∧ IsNormal rest := by
  have hspace : isBlankChar ' ' = true := by decide
  constructor
  · intro h
    obtain ⟨-, hchain, -⟩ := List.isChain_append.mp h.single
    obtain ⟨hnext, hsingle⟩ := List.isChain_cons.mp hchain
    have hne : rest ≠ [] := by
      rintro rfl
      have hblank := h.last ' ' (by simp)
      rw [hspace] at hblank
      cases hblank
    refine ⟨hne, ?_, ?_, ?_, hsingle⟩
    · intro c hc
      exact h.space c (by simp [hc])
    · intro c hc
      exact hnext c hc hspace
    · intro c hc
      refine h.last c ?_
      rw [List.getLast?_append_of_ne_nil _ (by simp), List.getLast?_cons_of_ne_nil hne]
      exact hc
  · rintro ⟨hne, h⟩
    refine ⟨?_, ?_, ?_, ?_⟩
    · intro c hc hblank
      rcases List.mem_append.mp hc with hc | hc
      · exact hw.isNormal.space c hc hblank
      · rcases List.mem_cons.mp hc with rfl | hc
        · rfl
        · exact h.space c hc hblank
    · intro c hc
      rw [List.head?_append_of_ne_nil _ hw.1] at hc
      exact hw.isNormal.head c hc
    · intro c hc
      rw [List.getLast?_append_of_ne_nil _ (by simp), List.getLast?_cons_of_ne_nil hne] at hc
      exact h.last c hc
    · refine List.isChain_append.mpr ⟨hw.isNormal.single, List.isChain_cons.mpr ⟨?_, h.single⟩, ?_⟩
      · intro c hc _
        exact h.head c hc
      · intro c hc d _ hblank
        rw [hw.2 c (List.mem_of_mem_getLast? hc)] at hblank
        cases hblank

theorem intercalate_space_cons_cons (w v : List Char) (ws : List (List Char)) :
    [' '].intercalate (w :: v :: ws) = w ++ ' ' :: [' '].intercalate (v :: ws) := by
  rw [List.intercalate_cons_cons, List.append_assoc, List.singleton_append]

theorem intercalate_space_eq_nil_iff {ws : List (List Char)} (h : ∀ w ∈ ws, IsWord w) :
    [' '].intercalate ws = [] ↔ ws = [] := by
  constructor
  · intro hnil
    match ws with
    | [] => rfl
    | [w] =>
      rw [List.intercalate_singleton] at hnil
      exact absurd hnil (h w (List.mem_singleton_self w)).1
    | w :: v :: ws =>
      rw [intercalate_space_cons_cons] at hnil
      simp at hnil
  · rintro rfl
    rfl

/-- Words with single spaces between them are in normal form. -/
theorem isNormal_intercalate {ws : List (List Char)} (h : ∀ w ∈ ws, IsWord w) :
    IsNormal ([' '].intercalate ws) := by
  induction ws with
  | nil => exact isNormal_nil
  | cons w ws ih =>
    obtain ⟨hw, hws⟩ := List.forall_mem_cons.mp h
    cases ws with
    | nil =>
      rw [List.intercalate_singleton]
      exact hw.isNormal
    | cons v ws =>
      rw [intercalate_space_cons_cons, isNormal_word_append_iff hw]
      exact ⟨fun hnil => List.cons_ne_nil v ws ((intercalate_space_eq_nil_iff hws).mp hnil), ih hws⟩

/-- A text in normal form is its words with single spaces between them. -/
theorem IsNormal.eq_intercalate {cs : List Char} {ws : List (List Char)} (hcs : IsNormal cs)
    (h : HasWords cs ws) : cs = [' '].intercalate ws := by
  induction ws generalizing cs with
  | nil =>
    cases h with
    | nil => rfl
    | blank hc h => exact absurd hc (by simp [hcs.head _ rfl])
  | cons w ws ih =>
    cases h with
    | blank hc h => exact absurd hc (by simp [hcs.head _ rfl])
    | @word _ rest _ hw hend h =>
      cases rest with
      | nil =>
        obtain rfl : ws = [] := h.words_eq.symm
        rw [List.append_nil, List.intercalate_singleton]
      | cons c rest =>
        have hc : isBlankChar c = true := hend c rfl
        obtain rfl : c = ' ' := hcs.space c (by simp) hc
        obtain ⟨hne, hrest⟩ := (isNormal_word_append_iff hw).mp hcs
        have hwords : HasWords rest ws := by
          rw [← words_eq_iff, ← words_cons_blank hc]
          exact h.words_eq
        have heq : rest = [' '].intercalate ws := ih hrest hwords
        cases ws with
        | nil => exact absurd heq hne
        | cons v ws => rw [intercalate_space_cons_cons, ← heq]

/-! ### What `normalizeBlanks` makes of a text -/

theorem toList_normalizeBlanks (s : String) :
    (normalizeBlanks s).toList = [' '].intercalate (words s.toList) := by
  rw [normalizeBlanks, String.toList_intercalate, List.map_map]
  simp [Function.comp_def]

theorem isWord_of_mem_words {cs w : List Char} (h : w ∈ words cs) : IsWord w :=
  (words_eq_iff.mp rfl : HasWords cs (words cs)).isWord w h

theorem isNormal_normalizeBlanks (s : String) : IsNormal (normalizeBlanks s).toList := by
  rw [toList_normalizeBlanks]
  exact isNormal_intercalate fun _ => isWord_of_mem_words

theorem words_normalizeBlanks (s : String) :
    words (normalizeBlanks s).toList = words s.toList := by
  have hone : ∀ w ∈ words s.toList, words (String.ofList w).toList = [w] := by
    intro w hw
    rw [String.toList_ofList, words_of_isWord (isWord_of_mem_words hw)]
  rw [normalizeBlanks, words_intercalate (by decide) (by decide), List.flatMap_map,
    List.flatMap_congr hone, List.flatMap_singleton']

theorem normalizeBlanks_eq_iff_words {s t : String} :
    normalizeBlanks s = normalizeBlanks t ↔ words s.toList = words t.toList := by
  constructor
  · intro h
    rw [← words_normalizeBlanks s, h, words_normalizeBlanks t]
  · exact normalizeBlanks_eq_of_words_eq

theorem normalizeBlanks_of_isNormal {s : String} (h : IsNormal s.toList) :
    normalizeBlanks s = s := by
  rw [← String.toList_inj, toList_normalizeBlanks]
  exact (h.eq_intercalate (words_eq_iff.mp rfl)).symm

/-- The text of a normal form, and which texts share one. -/
structure BlanksNormalized : Prop where
  /-- Every text has one sequence of words. -/
  unique : ∀ s : String, ∃! ws, HasWords s.toList ws
  words : ∀ s ws, HasWords (normalizeBlanks s).toList ws ↔ HasWords s.toList ws
  normal : ∀ s, IsNormal (normalizeBlanks s).toList
  idempotent : ∀ s, normalizeBlanks (normalizeBlanks s) = normalizeBlanks s
  /-- Nothing else is in normal form. -/
  fixed : ∀ s, normalizeBlanks s = s ↔ IsNormal s.toList
  eq_iff : ∀ s t, normalizeBlanks s = normalizeBlanks t ↔
    ∃ ws, HasWords s.toList ws ∧ HasWords t.toList ws
  /-- It does not matter which blanks stand at a place, nor how many, as long as there are some. -/
  gap : ∀ before gap gap' after : String, gap ≠ "" → isBlank gap = true → gap' ≠ "" →
    isBlank gap' = true → normalizeBlanks (before ++ gap ++ after) =
      normalizeBlanks (before ++ gap' ++ after)

theorem blanks_normalized : BlanksNormalized where
  unique s := by
    obtain ⟨ws, h⟩ := exists_hasWords s.toList
    exact ⟨ws, h, fun vs hvs => hvs.words_eq.symm.trans h.words_eq⟩
  words s ws := by
    rw [← words_eq_iff, ← words_eq_iff, words_normalizeBlanks]
  normal := isNormal_normalizeBlanks
  idempotent s := normalizeBlanks_of_isNormal (isNormal_normalizeBlanks s)
  fixed s := by
    constructor
    · intro h
      rw [← h]
      exact isNormal_normalizeBlanks s
    · exact normalizeBlanks_of_isNormal
  eq_iff s t := by
    rw [normalizeBlanks_eq_iff_words]
    constructor
    · intro h
      exact ⟨_, words_eq_iff.mp h, words_eq_iff.mp rfl⟩
    · rintro ⟨ws, hs, ht⟩
      rw [hs.words_eq, ht.words_eq]
  gap before gap gap' after hne hgap hne' hgap' := by
    have hwords : ∀ {g : String}, g ≠ "" → isBlank g = true →
        Text.words (before ++ g ++ after).toList =
          Text.words before.toList ++ Text.words after.toList := by
      intro g hg hblank
      have hlist : g.toList ≠ [] := fun h => hg (String.toList_eq_nil_iff.mp h)
      rw [String.toList_append, String.toList_append, List.append_assoc,
        words_append_gap hlist hblank]
    rw [normalizeBlanks_eq_iff_words, hwords hne hgap, hwords hne' hgap']

/-- A no-break space and a line feed are blanks as well, and one space may stand for both; a
zero-width space is none. -/
theorem blanks_normalized_of_no_break_space :
    let gap := "\u00a0\n"
    let words := ["SELECT".toList, "a\u200b".toList]
    gap ≠ "" ∧ isBlank gap = true ∧
    normalizeBlanks ("\tSELECT" ++ gap ++ "a\u200b") =
      normalizeBlanks ("\tSELECT" ++ " " ++ "a\u200b") ∧
    HasWords ("\tSELECT" ++ gap ++ "a\u200b").toList words ∧
    HasWords (normalizeBlanks ("\tSELECT" ++ gap ++ "a\u200b")).toList words ∧
    normalizeBlanks ("\tSELECT" ++ gap ++ "a\u200b") = "SELECT a\u200b" := by
  intro gap words
  have hne : gap ≠ "" := by decide
  have hgap : isBlank gap = true := by decide
  have hwords : HasWords ("\tSELECT" ++ gap ++ "a\u200b").toList words :=
    words_eq_iff.mp (by decide)
  exact ⟨hne, hgap, blanks_normalized.gap _ gap " " _ hne hgap (by decide) (by decide), hwords,
    (blanks_normalized.words _ words).mpr hwords, by decide⟩

end SelectQuery.Text
