import SelectQuery.Proofs.Text.Delimited
import SelectQuery.Text.Quoted

/-!
# Quoted texts are told apart

Every character has its own form inside quotes and none of these forms starts with the quote, so a
quoted text says which text it is and where it ends, whatever is in it and whatever follows it
(`selfDelimiting_quoted`).
-/

namespace SelectQuery.Text

/-! ### Hexadecimal digits -/

theorem digitChar_inj : ∀ m < 16, ∀ n < 16, Nat.digitChar m = Nat.digitChar n → m = n := by
  decide

theorem brace_ne_digitChar : ∀ n < 16, '\x7d' ≠ Nat.digitChar n := by
  decide

theorem toDigits_ne_singleton {m : Nat} (hm : 16 ≤ m) (c : Char) : Nat.toDigits 16 m ≠ [c] := by
  intro h
  rw [Nat.toDigits_of_base_le (by decide) hm] at h
  exact absurd (List.append_eq_singleton_iff.mp h) (by simp [Nat.toDigits_ne_nil])

theorem toDigits_inj {m n : Nat} (h : Nat.toDigits 16 m = Nat.toDigits 16 n) : m = n := by
  induction m using Nat.strongRecOn generalizing n with
  | ind m ih =>
    rcases Nat.lt_or_ge m 16 with hm | hm
    · rw [Nat.toDigits_of_lt_base hm] at h
      rcases Nat.lt_or_ge n 16 with hn | hn
      · rw [Nat.toDigits_of_lt_base hn] at h
        exact digitChar_inj m hm n hn (List.singleton_inj.mp h)
      · exact absurd h.symm (toDigits_ne_singleton hn _)
    · rcases Nat.lt_or_ge n 16 with hn | hn
      · rw [Nat.toDigits_of_lt_base hn] at h
        exact absurd h (toDigits_ne_singleton hm _)
      · rw [Nat.toDigits_of_base_le (by decide) hm, Nat.toDigits_of_base_le (by decide) hn] at h
        obtain ⟨hfirst, hlast⟩ := List.append_inj' h rfl
        have hdiv : m / 16 = n / 16 := ih (m / 16) (by omega) hfirst
        have hmod : m % 16 = n % 16 :=
          digitChar_inj _ (Nat.mod_lt m (by decide)) _ (Nat.mod_lt n (by decide))
            (List.singleton_inj.mp hlast)
        omega

theorem brace_notMem_toDigits (n : Nat) : '\x7d' ∉ Nat.toDigits 16 n := by
  induction n using Nat.strongRecOn with
  | ind n ih =>
    rcases Nat.lt_or_ge n 16 with hn | hn
    · rw [Nat.toDigits_of_lt_base hn, List.mem_singleton]
      exact brace_ne_digitChar n hn
    · rw [Nat.toDigits_of_base_le (by decide) hn, List.mem_append, List.mem_singleton]
      rintro (hfirst | hlast)
      · exact ih (n / 16) (by omega) hfirst
      · exact brace_ne_digitChar _ (Nat.mod_lt n (by decide)) hlast

/-! ### Characters inside quotes -/

/-- The characters with a short escape, by what comes after the backslash. -/
def shortEscapes : List (Char × Char) :=
  [('0', '\x00'), ('t', '\t'), ('r', '\r'), ('n', '\n'), ('"', '"'), ('\\', '\\')]

theorem shortEscapes_inj :
    ∀ e ∈ shortEscapes, ∀ e' ∈ shortEscapes, e.1 = e'.1 → e = e' := by
  decide

theorem ne_u_of_mem_shortEscapes : ∀ e ∈ shortEscapes, e.1 ≠ 'u' := by
  decide

/-- A character inside quotes is a short escape, its code point in hexadecimal, or itself. -/
theorem quotedChar_cases (c : Char) :
    (∃ k, (k, c) ∈ shortEscapes ∧ quotedChar c = ['\\', k]) ∨
    (quotedChar c = '\\' :: 'u' :: '\x7b' :: (Nat.toDigits 16 c.toNat ++ ['\x7d'])) ∨
    (c ≠ '"' ∧ c ≠ '\\' ∧ quotedChar c = [c]) := by
  generalize hquoted : quotedChar c = cs
  unfold quotedChar at hquoted
  split_ifs at hquoted with hzero ht hr hn hquote hbackslash hhidden <;> subst hquoted
  · exact .inl ⟨_, by rw [hzero]; decide, rfl⟩
  · exact .inl ⟨_, by rw [ht]; decide, rfl⟩
  · exact .inl ⟨_, by rw [hr]; decide, rfl⟩
  · exact .inl ⟨_, by rw [hn]; decide, rfl⟩
  · exact .inl ⟨_, by rw [hquote]; decide, rfl⟩
  · exact .inl ⟨_, by rw [hbackslash]; decide, rfl⟩
  · exact .inr (.inl rfl)
  · exact .inr (.inr ⟨hquote, hbackslash, rfl⟩)

theorem selfDelimiting_quotedChar : SelfDelimiting quotedChar := by
  intro c d r s h
  rcases quotedChar_cases c with ⟨k, hk, hc⟩ | hc | ⟨-, hcplain, hc⟩
  · rcases quotedChar_cases d with ⟨l, hl, hd⟩ | hd | ⟨-, hdplain, hd⟩
    · rw [hc, hd] at h
      obtain ⟨hkl, hrest⟩ := List.cons.inj (List.cons.inj h).2
      exact ⟨(Prod.mk.inj (shortEscapes_inj _ hk _ hl hkl)).2, hrest⟩
    · rw [hc, hd] at h
      exact absurd (List.cons.inj (List.cons.inj h).2).1 (ne_u_of_mem_shortEscapes _ hk)
    · rw [hc, hd] at h
      exact absurd (List.cons.inj h).1.symm hdplain
  · rcases quotedChar_cases d with ⟨l, hl, hd⟩ | hd | ⟨-, hdplain, hd⟩
    · rw [hc, hd] at h
      exact absurd (List.cons.inj (List.cons.inj h).2).1.symm (ne_u_of_mem_shortEscapes _ hl)
    · rw [hc, hd] at h
      simp only [List.cons_append, List.append_assoc, List.nil_append, List.cons.injEq,
        true_and] at h
      obtain ⟨hdigits, hrest⟩ :=
        append_cons_inj (brace_notMem_toDigits _) (brace_notMem_toDigits _) h
      exact ⟨Char.toNat_inj.mp (toDigits_inj hdigits), hrest⟩
    · rw [hc, hd] at h
      exact absurd (List.cons.inj h).1.symm hdplain
  · rcases quotedChar_cases d with ⟨l, hl, hd⟩ | hd | ⟨-, hdplain, hd⟩
    · rw [hc, hd] at h
      exact absurd (List.cons.inj h).1 hcplain
    · rw [hc, hd] at h
      exact absurd (List.cons.inj h).1 hcplain
    · rw [hc, hd] at h
      exact List.cons.inj h

theorem exists_quotedChar_eq_cons (c : Char) : ∃ d ds, quotedChar c = d :: ds ∧ d ≠ '"' := by
  rcases quotedChar_cases c with ⟨k, -, hc⟩ | hc | ⟨hquote, -, hc⟩
  · exact ⟨_, _, hc, by decide⟩
  · exact ⟨_, _, hc, by decide⟩
  · exact ⟨_, _, hc, hquote⟩

theorem selfDelimiting_quoted : SelfDelimiting fun s => (quoted s).toList := by
  intro a b r s h
  simp only [quoted, String.toList_ofList, List.cons_append, List.append_assoc, List.nil_append,
    List.cons.injEq, true_and] at h
  obtain ⟨hchars, hrest⟩ := selfDelimiting_quotedChar.flatMap exists_quotedChar_eq_cons h
  exact ⟨String.toList_inj.mp hchars, hrest⟩

end SelectQuery.Text
