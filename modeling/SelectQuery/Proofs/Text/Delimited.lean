import Mathlib.Data.List.Infix

/-!
# Where one text ends and the next begins

Two texts in a row can be told apart when something marks where the first ends: a character that is
not in it (`append_cons_inj`) or a pair of characters (`append_pair_inj`), or the first text itself,
which then can be told from whatever follows (`SelfDelimiting`).
-/

namespace SelectQuery

/-! ### Ended by what follows -/

/-- Neither of two starts of one list is longer when nothing can be what it is longer by. -/
theorem append_inj_of_eq_nil {α : Type} {x x' v v' : List α}
    (hright : ∀ z, x' = x ++ z → v = z ++ v' → z = [])
    (hleft : ∀ z, x = x' ++ z → v' = z ++ v → z = []) (h : x ++ v = x' ++ v') :
    x = x' ∧ v = v' := by
  rcases List.append_eq_append_iff.mp h with ⟨z, hx, hv⟩ | ⟨z, hx, hv⟩
  · obtain rfl := hright z hx hv
    exact ⟨by rw [hx, List.append_nil], hv⟩
  · obtain rfl := hleft z hx hv
    exact ⟨by rw [hx, List.append_nil], hv.symm⟩

/-- What ends before the first of a character. -/
theorem append_cons_inj {c : Char} {x x' u u' : List Char} (hx : c ∉ x) (hx' : c ∉ x')
    (h : x ++ c :: u = x' ++ c :: u') : x = x' ∧ u = u' := by
  have hshort : ∀ {x y u u' z : List Char}, c ∉ y → y = x ++ z →
      c :: u = z ++ c :: u' → z = [] := by
    rintro x y u u' z hy rfl hz
    cases z with
    | nil => rfl
    | cons d z =>
      obtain ⟨rfl, -⟩ := List.cons.inj hz
      exact absurd (List.mem_append_right x List.mem_cons_self) hy
  obtain ⟨hxx', hcons⟩ := append_inj_of_eq_nil (fun _ => hshort hx') (fun _ => hshort hx) h
  exact ⟨hxx', (List.cons.inj hcons).2⟩

/-- What ends before the first of a pair of characters. -/
theorem append_pair_inj {c d : Char} (hcd : c ≠ d) {x x' u u' : List Char} (hx : ¬ [c, d] <:+: x)
    (hx' : ¬ [c, d] <:+: x') (h : x ++ c :: d :: u = x' ++ c :: d :: u') : x = x' ∧ u = u' := by
  have hshort : ∀ {x y u u' z : List Char}, ¬ [c, d] <:+: y → y = x ++ z →
      c :: d :: u = z ++ c :: d :: u' → z = [] := by
    rintro x y u u' z hy rfl hz
    match z with
    | [] => rfl
    | [e] =>
      -- The pair would have to start at its own second character.
      obtain ⟨-, hrest⟩ := List.cons.inj hz
      exact absurd (List.cons.inj hrest).1.symm hcd
    | e :: e' :: z =>
      obtain ⟨rfl, hrest⟩ := List.cons.inj hz
      obtain ⟨rfl, -⟩ := List.cons.inj hrest
      exact absurd ⟨x, z, by simp⟩ hy
  obtain ⟨hxx', hcons⟩ := append_inj_of_eq_nil (fun _ => hshort hx') (fun _ => hshort hx) h
  exact ⟨hxx', (List.cons.inj (List.cons.inj hcons).2).2⟩

/-- What starts after the last space, behind a link that ends in it. -/
theorem append_link_inj (link : List Char) {x x' u u' : List Char} (hu : ' ' ∉ u) (hu' : ' ' ∉ u')
    (h : x ++ link ++ ' ' :: u = x' ++ link ++ ' ' :: u') : x = x' ∧ u = u' := by
  have hback := congrArg List.reverse h
  simp only [List.reverse_append, List.reverse_cons, List.append_assoc, List.singleton_append]
    at hback
  obtain ⟨hrev, hrest⟩ := append_cons_inj (fun hmem => hu (List.mem_reverse.mp hmem))
    (fun hmem => hu' (List.mem_reverse.mp hmem)) hback
  exact ⟨List.reverse_inj.mp (List.append_cancel_left hrest), List.reverse_inj.mp hrev⟩

/-! ### Ended by themselves -/

/-- What is written can be told from whatever follows it. -/
def SelfDelimiting {α : Type} (write : α → List Char) : Prop :=
  ∀ a b r s, write a ++ r = write b ++ s → a = b ∧ r = s

namespace SelfDelimiting

variable {α : Type} {write : α → List Char}

theorem injective (h : SelfDelimiting write) : Function.Injective write := by
  intro a b hab
  have hwhole : write a ++ [] = write b ++ [] := by rw [hab]
  exact (h a b [] [] hwhole).1

theorem eq_iff (h : SelfDelimiting write) (a b : α) : write a = write b ↔ a = b :=
  h.injective.eq_iff

/-- Words of which none starts with another. -/
theorem of_words (h : ∀ a b, write a <+: write b → a = b) : SelfDelimiting write := by
  intro a b r s hwhole
  have hab : a = b := by
    have hstart : write a <+: write b ++ s := hwhole ▸ List.prefix_append _ _
    rcases List.prefix_or_prefix_of_prefix hstart (List.prefix_append _ _) with hshort | hlong
    · exact h a b hshort
    · exact (h b a hlong).symm
  subst hab
  exact ⟨rfl, List.append_cancel_left hwhole⟩

/-- A row of texts ends before a character that starts none of them. -/
theorem flatMap (h : SelfDelimiting write) {stop : Char}
    (hstop : ∀ a, ∃ c cs, write a = c :: cs ∧ c ≠ stop) {as bs : List α} {r s : List Char}
    (hwhole : as.flatMap write ++ stop :: r = bs.flatMap write ++ stop :: s) : as = bs ∧ r = s := by
  induction as generalizing bs with
  | nil =>
    cases bs with
    | nil => exact ⟨rfl, (List.cons.inj hwhole).2⟩
    | cons b bs =>
      obtain ⟨c, cs, hb, hc⟩ := hstop b
      rw [List.flatMap_cons, hb] at hwhole
      exact absurd (List.cons.inj hwhole).1.symm hc
  | cons a as ih =>
    cases bs with
    | nil =>
      obtain ⟨c, cs, ha, hc⟩ := hstop a
      rw [List.flatMap_cons, ha] at hwhole
      exact absurd (List.cons.inj hwhole).1 hc
    | cons b bs =>
      rw [List.flatMap_cons, List.flatMap_cons, List.append_assoc, List.append_assoc] at hwhole
      obtain ⟨rfl, hrest⟩ := h a b _ _ hwhole
      obtain ⟨rfl, hafter⟩ := ih hrest
      exact ⟨rfl, hafter⟩

end SelfDelimiting

end SelectQuery
