import SelectQuery.Proofs.Render.Text

/-!
# A statement line by line

In the pretty layout every clause starts a line with its keyword and every predicate after the first
starts one with the indent. When no text holds a line feed, the lines of a statement can be told
apart, and since an indent is blank and no two keywords start with one letter, each line can be
given to its clause: equal statements have equal lines clause by clause (`clauseLines_inj`).
-/

namespace SelectQuery

/-! ### Blocks -/

section Blocks

variable {β κ : Type} {key : β → Option κ}

/-- Nothing, or something with a key and then things without one. -/
def IsBlock (key : β → Option κ) (k : κ) (b : List β) : Prop :=
  b = [] ∨ ∃ l ls, b = l :: ls ∧ key l = some k ∧ ∀ l' ∈ ls, key l' = none

theorem append_inj_of_key {xs ys u v : List β} (hxs : ∀ l ∈ xs, key l = none)
    (hys : ∀ l ∈ ys, key l = none) (hu : ∀ l, u.head? = some l → key l ≠ none)
    (hv : ∀ l, v.head? = some l → key l ≠ none) (h : xs ++ u = ys ++ v) : xs = ys ∧ u = v := by
  induction xs generalizing ys with
  | nil =>
    cases ys with
    | nil => exact ⟨rfl, h⟩
    | cons y ys =>
      have hhead : u.head? = some y := by rw [List.nil_append] at h; rw [h]; rfl
      exact absurd (hys y List.mem_cons_self) (hu y hhead)
  | cons x xs ih =>
    cases ys with
    | nil =>
      have hhead : v.head? = some x := by rw [List.nil_append] at h; rw [← h]; rfl
      exact absurd (hxs x List.mem_cons_self) (hv x hhead)
    | cons y ys =>
      obtain ⟨rfl, hrest⟩ := List.cons.inj h
      obtain ⟨rfl, huv⟩ := ih (fun l hl => hxs l (List.mem_cons_of_mem x hl))
        (fun l hl => hys l (List.mem_cons_of_mem x hl)) hrest
      exact ⟨rfl, huv⟩

theorem IsBlock.append_inj {k : κ} {a b u v : List β} (ha : IsBlock key k a) (hb : IsBlock key k b)
    (hu : ∀ l, u.head? = some l → ∃ k', key l = some k' ∧ k' ≠ k)
    (hv : ∀ l, v.head? = some l → ∃ k', key l = some k' ∧ k' ≠ k) (h : a ++ u = b ++ v) :
    a = b ∧ u = v := by
  have hkeyed : ∀ {w : List β}, (∀ l, w.head? = some l → ∃ k', key l = some k' ∧ k' ≠ k) →
      ∀ l, w.head? = some l → key l ≠ none := by
    intro w hw l hl hnone
    obtain ⟨k', hkey, -⟩ := hw l hl
    rw [hnone] at hkey
    cases hkey
  -- What follows a block cannot start like one.
  have hother : ∀ {w ls : List β} {l : β},
      (∀ l, w.head? = some l → ∃ k', key l = some k' ∧ k' ≠ k) →
      key l = some k → w ≠ l :: ls := by
    rintro w ls l hw hl rfl
    obtain ⟨k', hkey, hne⟩ := hw l rfl
    exact hne (Option.some.inj (hkey.symm.trans hl))
  rcases ha with rfl | ⟨l, ls, rfl, hl, hls⟩
  · rcases hb with rfl | ⟨m, ms, rfl, hm, hms⟩
    · exact ⟨rfl, h⟩
    · exact absurd h (hother hu hm)
  · rcases hb with rfl | ⟨m, ms, rfl, hm, hms⟩
    · exact absurd h.symm (hother hv hl)
    · obtain ⟨rfl, hrest⟩ := List.cons.inj h
      obtain ⟨rfl, huv⟩ := append_inj_of_key hls hms (hkeyed hu) (hkeyed hv) hrest
      exact ⟨rfl, huv⟩

theorem key_head?_flatMap {f : κ → List β} (hf : ∀ k, IsBlock key k (f k)) {ks : List κ} {l : β}
    (h : (ks.flatMap f).head? = some l) : ∃ k ∈ ks, key l = some k := by
  induction ks with
  | nil => cases h
  | cons k ks ih =>
    rw [List.flatMap_cons] at h
    rcases hf k with hnil | ⟨l', ls, hcons, hkey, -⟩
    · rw [hnil] at h
      obtain ⟨k', hk', hl⟩ := ih h
      exact ⟨k', List.mem_cons_of_mem k hk', hl⟩
    · rw [hcons] at h
      obtain rfl := Option.some.inj h
      exact ⟨k, List.mem_cons_self, hkey⟩

/-- Blocks with different keys, one after the other, can be told apart. -/
theorem eq_of_flatMap_eq {f g : κ → List β} (hf : ∀ k, IsBlock key k (f k))
    (hg : ∀ k, IsBlock key k (g k)) {ks : List κ} (hnodup : ks.Nodup)
    (h : ks.flatMap f = ks.flatMap g) : ∀ k ∈ ks, f k = g k := by
  induction ks with
  | nil => nofun
  | cons k ks ih =>
    obtain ⟨hk, hnodup⟩ := List.nodup_cons.mp hnodup
    have hstart : ∀ {f' : κ → List β}, (∀ k, IsBlock key k (f' k)) →
        ∀ l, (ks.flatMap f').head? = some l → ∃ k', key l = some k' ∧ k' ≠ k := by
      intro f' hf' l hl
      obtain ⟨k', hk', hkey⟩ := key_head?_flatMap hf' hl
      exact ⟨k', hkey, fun heq => hk (heq ▸ hk')⟩
    rw [List.flatMap_cons, List.flatMap_cons] at h
    obtain ⟨hfirst, hrest⟩ := (hf k).append_inj (hg k) (hstart hf) (hstart hg) h
    exact List.forall_mem_cons.mpr ⟨hfirst, ih hnodup hrest⟩

end Blocks

namespace Settings

/-! ### Lines -/

/-- The lines of a clause whose predicates stand on lines of their own. -/
def predicateLines (s : Settings) (heading : String) : List String → List String
  | [] => []
  | t :: ts => (heading ++ t) :: ts.map (s.indent ++ ·)

def rowLines (heading : String) : List String → List String
  | [] => []
  | t :: ts => [heading ++ ", ".intercalate (t :: ts)]

/-- The lines of a clause in the pretty layout. -/
def clauseLines (s : Settings) (q : Query) : Clause → List String
  | .filter => s.predicateLines (q.heading .filter) (s.terms q .filter)
  | .having => s.predicateLines (q.heading .having) (s.terms q .having)
  | c => rowLines (q.heading c) (s.terms q c)

variable (s : Settings) (q : Query)

theorem terms_eq_nil_iff (c : Clause) : s.terms q c = [] ↔ q.entries c = [] := by
  have hpredicates : ∀ ps, s.predicateTerms ps = [] ↔ ps = [] := by
    intro ps
    cases ps <;> simp [predicateTerms]
  cases c with
  | filter => exact hpredicates q.filters
  | having => exact hpredicates q.havings
  | select | source | group | order => exact List.map_eq_nil_iff

theorem clauseLines_eq_nil_iff (c : Clause) : s.clauseLines q c = [] ↔ s.terms q c = [] := by
  cases c <;> simp only [clauseLines] <;> cases s.terms q _ <;> simp [predicateLines, rowLines]

theorem clauseText_eq_lines (hpretty : s.pretty = true) {c : Clause} (h : s.terms q c ≠ []) :
    s.clauseText q c = "\n".intercalate (s.clauseLines q c) := by
  obtain ⟨t, ts, hterms⟩ := List.exists_cons_of_ne_nil h
  have hlined : s.link c = "\n" ++ s.indent → s.clauseText q c =
      "\n".intercalate (s.predicateLines (q.heading c) (s.terms q c)) := by
    intro hlink
    rw [clauseText, hlink, hterms, predicateLines, Text.intercalate_append_sep,
      String.intercalate_cons_append]
  have hrow : s.link c = ", " → s.clauseText q c =
      "\n".intercalate (rowLines (q.heading c) (s.terms q c)) := by
    intro hlink
    rw [clauseText, hlink, hterms, rowLines, String.intercalate_singleton]
  cases c with
  | filter | having => exact hlined (by simp [link, hpretty])
  | select | source | group | order => exact hrow rfl

theorem text_eq_lines (hpretty : s.pretty = true) :
    s.text q = "\n".intercalate (Clause.all.flatMap (s.clauseLines q)) := by
  have hpresent : ∀ c ∈ q.present, s.terms q c ≠ [] := by
    intro c hc hnil
    rw [terms_eq_nil_iff] at hnil
    simp [Query.present, hnil] at hc
  have htexts : q.present.map (s.clauseText q) =
      (q.present.map (s.clauseLines q)).map "\n".intercalate := by
    rw [List.map_map]
    exact List.map_congr_left fun c hc => s.clauseText_eq_lines q hpretty (hpresent c hc)
  have hne : ∀ r ∈ q.present.map (s.clauseLines q), r ≠ [] := by
    intro r hr
    obtain ⟨c, hc, rfl⟩ := List.mem_map.mp hr
    exact fun hnil => hpresent c hc ((s.clauseLines_eq_nil_iff q c).mp hnil)
  have hflat : ∀ cs : List Clause, ((cs.filter fun c => !(q.entries c).isEmpty).map
      (s.clauseLines q)).flatten = cs.flatMap (s.clauseLines q) := by
    intro cs
    induction cs with
    | nil => rfl
    | cons c cs ih =>
      by_cases hc : q.entries c = []
      · have hnil : s.clauseLines q c = [] := by rw [clauseLines_eq_nil_iff, terms_eq_nil_iff, hc]
        rw [List.filter_cons_of_neg (by simp [hc]), List.flatMap_cons, hnil, ih, List.nil_append]
      · rw [List.filter_cons_of_pos (by simp [hc]), List.map_cons, List.flatten_cons, ih,
          List.flatMap_cons]
  rw [text, hpretty, if_pos rfl, htexts, Text.intercalate_flatten hne, Query.present, hflat]

/-! ### Telling lines apart -/

/-- The clause that a line opens, by the first letter of its keyword. -/
def opening? (line : String) : Option Clause :=
  Clause.all.find? fun c => c.keyword.toList.head? = line.toList.head?

theorem opening?_heading (c : Clause) (t : String) : opening? (q.heading c ++ t) = some c := by
  have hhead : (q.heading c ++ t).toList.head? = c.keyword.toList.head? := by
    rw [String.toList_append]
    cases c with
    | select => cases hd : q.distinct <;> simp [Query.heading, hd, Clause.keyword]
    | source | filter | group | having | order => simp [Query.heading, Clause.keyword]
  rw [opening?, hhead]
  cases c <;> decide

theorem opening?_indent (hblank : Text.isBlank s.indent = true) (hne : s.indent ≠ "") (t : String) :
    opening? (s.indent ++ t) = none := by
  obtain ⟨x, xs, hindent⟩ : ∃ x xs, s.indent.toList = x :: xs :=
    List.exists_cons_of_ne_nil (by simpa using hne)
  have hx : Text.isBlankChar x = true := by
    rw [Text.isBlank, hindent, List.all_cons] at hblank
    exact (Bool.and_eq_true_iff.mp hblank).1
  rw [opening?, String.toList_append, hindent, List.find?_eq_none]
  intro c _ hc
  have hletter : c.keyword.toList.head? = some x := of_decide_eq_true hc
  cases c <;> obtain rfl := Option.some.inj hletter <;> exact absurd hx (by decide)

theorem isBlock_clauseLines (hblank : Text.isBlank s.indent = true) (hne : s.indent ≠ "")
    (c : Clause) : IsBlock opening? c (s.clauseLines q c) := by
  have hlined : IsBlock opening? c (s.predicateLines (q.heading c) (s.terms q c)) := by
    cases s.terms q c with
    | nil => exact .inl rfl
    | cons t ts =>
      refine .inr ⟨_, _, rfl, opening?_heading q c t, fun l hl => ?_⟩
      obtain ⟨t', -, rfl⟩ := List.mem_map.mp hl
      exact s.opening?_indent hblank hne t'
  have hrow : IsBlock opening? c (rowLines (q.heading c) (s.terms q c)) := by
    cases s.terms q c with
    | nil => exact .inl rfl
    | cons t ts => exact .inr ⟨_, _, rfl, opening?_heading q c _, nofun⟩
  cases c with
  | filter | having => exact hlined
  | select | source | group | order => exact hrow

theorem newline_notMem_heading (c : Clause) : '\n' ∉ (q.heading c).toList := by
  cases c with
  | select => cases hd : q.distinct <;> simp [Query.heading, hd]
  | source | filter | group | having | order => simp [Query.heading]

theorem newline_notMem_clauseLines (hindent : '\n' ∉ s.indent.toList) {c : Clause}
    (hterms : ∀ t ∈ s.terms q c, '\n' ∉ t.toList) : ∀ l ∈ s.clauseLines q c, '\n' ∉ l.toList := by
  have hheading := newline_notMem_heading q c
  have hlined : ∀ l ∈ s.predicateLines (q.heading c) (s.terms q c), '\n' ∉ l.toList := by
    cases hts : s.terms q c with
    | nil => nofun
    | cons t ts =>
      rw [hts] at hterms
      obtain ⟨ht, hts⟩ := List.forall_mem_cons.mp hterms
      refine List.forall_mem_cons.mpr ⟨?_, fun l hl => ?_⟩
      · rw [String.toList_append, List.mem_append]
        exact not_or.mpr ⟨hheading, ht⟩
      · obtain ⟨t', ht', rfl⟩ := List.mem_map.mp hl
        rw [String.toList_append, List.mem_append]
        exact not_or.mpr ⟨hindent, hts t' ht'⟩
  have hrow : ∀ l ∈ rowLines (q.heading c) (s.terms q c), '\n' ∉ l.toList := by
    cases hts : s.terms q c with
    | nil => nofun
    | cons t ts =>
      rw [hts] at hterms
      refine List.forall_mem_singleton.mpr ?_
      rw [String.toList_append, List.mem_append]
      exact not_or.mpr ⟨hheading, Text.notMem_intercalate (by decide) hterms⟩
  cases c with
  | filter | having => exact hlined
  | select | source | group | order => exact hrow

theorem flatMap_clauseLines_ne_nil (hitems : q.items ≠ []) :
    Clause.all.flatMap (s.clauseLines q) ≠ [] := by
  intro hnil
  have hselect := List.flatMap_eq_nil_iff.mp hnil .select (Clause.mem_all .select)
  rw [clauseLines_eq_nil_iff, terms_eq_nil_iff] at hselect
  exact hitems hselect

/-- Equal statements have equal lines, clause by clause. -/
theorem clauseLines_inj {q₁ q₂ : Query} (hpretty : s.pretty = true)
    (hblank : Text.isBlank s.indent = true) (hne : s.indent ≠ "") (hindent : '\n' ∉ s.indent.toList)
    (hitems₁ : q₁.items ≠ []) (hitems₂ : q₂.items ≠ [])
    (hterms₁ : ∀ c, ∀ t ∈ s.terms q₁ c, '\n' ∉ t.toList)
    (hterms₂ : ∀ c, ∀ t ∈ s.terms q₂ c, '\n' ∉ t.toList)
    (h : s.text q₁ = s.text q₂) (c : Clause) : s.clauseLines q₁ c = s.clauseLines q₂ c := by
  have hlines : ∀ {q : Query}, (∀ c, ∀ t ∈ s.terms q c, '\n' ∉ t.toList) →
      ∀ l ∈ Clause.all.flatMap (s.clauseLines q), '\n' ∉ l.toList := by
    intro q hterms l hl
    obtain ⟨c, -, hl⟩ := List.mem_flatMap.mp hl
    exact s.newline_notMem_clauseLines q hindent (hterms c) l hl
  rw [s.text_eq_lines q₁ hpretty, s.text_eq_lines q₂ hpretty] at h
  have hflat := Text.intercalate_singleton_inj (s.flatMap_clauseLines_ne_nil q₁ hitems₁)
    (s.flatMap_clauseLines_ne_nil q₂ hitems₂) (hlines hterms₁) (hlines hterms₂) h
  exact eq_of_flatMap_eq (s.isBlock_clauseLines q₁ hblank hne) (s.isBlock_clauseLines q₂ hblank hne)
    (by decide) hflat c c.mem_all

end Settings

end SelectQuery
