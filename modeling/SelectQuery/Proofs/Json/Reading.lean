import Mathlib.Tactic.SplitIfs
import SelectQuery.Json.Reader

/-!
# Reading JSON that was written

The compact text of a value without numbers is read as that value, and what follows the text is left
untouched. Main statement: `Json.ofText?_text`.
-/

namespace SelectQuery.Json

/-! ### Strings -/

theorem digitsValue?_control : ∀ n < 0x20,
    Text.digitsValue? 16 ['0', '0', Nat.digitChar (n / 16), Nat.digitChar (n % 16)] = some n := by
  decide

/-- A character of a string is a backslash and a letter, the digits of a control, or itself. -/
theorem escaped_cases (c : Char) :
    (∃ letter, escaped c = ['\\', letter] ∧ letter ≠ 'u' ∧ unescaped? letter = some c.toNat) ∨
    (c.toNat < 0x20 ∧ escaped c =
      ['\\', 'u', '0', '0', Nat.digitChar (c.toNat / 16), Nat.digitChar (c.toNat % 16)]) ∨
    (c ≠ '"' ∧ c ≠ '\\' ∧ ¬c.toNat < 0x20 ∧ escaped c = [c]) := by
  generalize hescaped : escaped c = cs
  unfold escaped at hescaped
  split_ifs at hescaped with hquote hbackslash hb hf hn hr ht hcontrol <;> subst hescaped
  · exact .inl ⟨_, rfl, by decide, by rw [hquote]; rfl⟩
  · exact .inl ⟨_, rfl, by decide, by rw [hbackslash]; rfl⟩
  · exact .inl ⟨_, rfl, by decide, by rw [hb]; rfl⟩
  · exact .inl ⟨_, rfl, by decide, by rw [hf]; rfl⟩
  · exact .inl ⟨_, rfl, by decide, by rw [hn]; rfl⟩
  · exact .inl ⟨_, rfl, by decide, by rw [hr]; rfl⟩
  · exact .inl ⟨_, rfl, by decide, by rw [ht]; rfl⟩
  · exact .inr (.inl ⟨hcontrol, rfl⟩)
  · exact .inr (.inr ⟨hquote, hbackslash, hcontrol, rfl⟩)

theorem readUnits_escaped {c : Char} {rest after : List Char} {units : List Nat}
    (h : readUnits rest = some (units, after)) :
    readUnits (escaped c ++ rest) = some (c.toNat :: units, after) := by
  obtain ⟨letter, hescaped, hu, hletter⟩ | ⟨hcontrol, hescaped⟩ |
    ⟨hquote, hbackslash, hcontrol, hescaped⟩ := escaped_cases c
  · rw [hescaped, List.cons_append, List.cons_append, List.nil_append, readUnits, hletter, h]
    · rfl
    · exact fun _ _ _ _ _ h => absurd h hu
  · simp only [hescaped, List.cons_append, List.nil_append]
    rw [readUnits, digitsValue?_control _ hcontrol, h]
    rfl
  · rw [hescaped, List.cons_append, List.nil_append, readUnits, if_neg hcontrol, h]
    · rfl
    · exact fun h => absurd h hquote
    · exact fun _ _ _ _ _ h => absurd h hbackslash
    · exact fun _ _ h => absurd h hbackslash

theorem readUnits_flatMap_escaped (cs rest : List Char) :
    readUnits (cs.flatMap escaped ++ '"' :: rest) = some (cs.map Char.toNat, rest) := by
  induction cs with
  | nil => rfl
  | cons c cs ih =>
    rw [List.flatMap_cons, List.append_assoc]
    exact readUnits_escaped ih

/-- No character is a half code point. -/
theorem not_half (c : Char) : isHighHalf c.toNat = false ∧ isLowHalf c.toNat = false := by
  have hvalid : c.toNat < 0xD800 ∨ 0xDFFF < c.toNat ∧ c.toNat < 0x110000 := c.valid
  simp only [isHighHalf, isLowHalf, Bool.and_eq_false_iff, decide_eq_false_iff_not]
  omega

theorem joinHalves_map_toNat (cs : List Char) : joinHalves (cs.map Char.toNat) = some cs := by
  induction cs with
  | nil => rfl
  | cons c cs ih =>
    obtain ⟨hhigh, hlow⟩ := not_half c
    cases cs with
    | nil => simp [joinHalves, hhigh, hlow]
    | cons d cs =>
      rw [List.map_cons] at ih
      simp [joinHalves, hhigh, hlow, ih]

theorem readString_write (s : String) (rest : List Char) :
    readString (s.toList.flatMap escaped ++ '"' :: rest) = some (s, rest) := by
  rw [readString, readUnits_flatMap_escaped]
  show (joinHalves (s.toList.map Char.toNat) >>= _) = _
  rw [joinHalves_map_toNat]
  show some (String.ofList s.toList, rest) = some (s, rest)
  rw [String.ofList_toList]

/-! ### Values -/

/-- No number stands anywhere in the value. -/
inductive Numberless : Json → Prop
  | null : Numberless null
  | bool (b : Bool) : Numberless (bool b)
  | str (s : String) : Numberless (str s)
  | arr {items : List Json} (h : ∀ v ∈ items, Numberless v) : Numberless (arr items)
  | obj {fields : List (String × Json)} (h : ∀ f ∈ fields, Numberless f.2) : Numberless (obj fields)

/-- Given more steps than the text of the value has characters, reading takes the value and leaves
whatever follows its text. -/
def ReadsBack (v : Json) : Prop :=
  ∀ fuel rest, v.write.length < fuel → readValue fuel (v.write ++ rest) = some (v, rest)

/-- What the text of a value without numbers starts with; neither a space nor a closing bracket. -/
def openers : List Char := ['n', 't', 'f', '"', '[', '{']

theorem Numberless.exists_write_eq_cons {v : Json} (h : v.Numberless) :
    ∃ c ∈ openers, ∃ cs, v.write = c :: cs := by
  cases h with
  | null => exact ⟨'n', by decide, _, rfl⟩
  | bool b => cases b with
    | true => exact ⟨'t', by decide, _, rfl⟩
    | false => exact ⟨'f', by decide, _, rfl⟩
  | str s => exact ⟨'"', by decide, _, rfl⟩
  | @arr items _ => cases items with
    | nil => exact ⟨'[', by decide, _, rfl⟩
    | cons v vs => exact ⟨'[', by decide, _, rfl⟩
  | @obj fields _ => cases fields with
    | nil => exact ⟨'{', by decide, _, rfl⟩
    | cons f fs => exact ⟨'{', by decide, _, rfl⟩

/-! ### Items -/

theorem readItems_last {fuel : Nat} {cs rest : List Char} {v : Json}
    (h : readValue fuel cs = some (v, ']' :: rest)) :
    readItems (fuel + 1) cs = some ([v], rest) := by
  rw [readItems, h]
  rfl

theorem readItems_comma {fuel : Nat} {cs cs' rest : List Char} {v : Json} {vs : List Json}
    (h : readValue fuel cs = some (v, ',' :: cs')) (hrest : readItems fuel cs' = some (vs, rest)) :
    readItems (fuel + 1) cs = some (v :: vs, rest) := by
  rw [readItems, h]
  show (readItems fuel cs' >>= _) = _
  rw [hrest]
  rfl

theorem readItems_write {v : Json} {vs : List Json} (h : ∀ w ∈ v :: vs, w.ReadsBack)
    {fuel : Nat} (rest : List Char) (hfuel : (v.write ++ writeItems vs).length < fuel) :
    readItems fuel (v.write ++ (writeItems vs ++ rest)) = some (v :: vs, rest) := by
  -- On the items after the first: each is read with one step less of the counter.
  induction vs generalizing v fuel with
  | nil =>
    cases fuel with
    | zero => exact absurd hfuel (Nat.not_lt_zero _)
    | succ fuel =>
      rw [writeItems, List.length_append, List.length_singleton] at hfuel
      exact readItems_last (h v (by simp) fuel _ (by omega))
  | cons w ws ih =>
    cases fuel with
    | zero => exact absurd hfuel (Nat.not_lt_zero _)
    | succ fuel =>
      rw [writeItems, List.length_append, List.length_cons] at hfuel
      have hv := h v (by simp) fuel (writeItems (w :: ws) ++ rest) (by omega)
      rw [writeItems, List.cons_append, List.append_assoc] at hv ⊢
      exact readItems_comma hv (ih (fun u hu => h u (.tail _ hu)) (by omega))

/-! ### Fields -/

theorem readFields_eq {fuel : Nat} {k : String} {cs cs' : List Char} {v : Json}
    (h : readValue fuel cs = some (v, cs')) :
    readFields (fuel + 1) (writeString k ++ ':' :: cs) =
      match skipSpaces cs' with
      | '}' :: rest => some ([(k, v)], rest)
      | ',' :: rest => do
        let (fs, rest) ← readFields fuel rest
        return ((k, v) :: fs, rest)
      | _ => none := by
  have hk : readString (k.toList.flatMap escaped ++ ['"'] ++ ':' :: cs) = some (k, ':' :: cs) := by
    rw [List.append_assoc]
    exact readString_write k (':' :: cs)
  rw [writeString, List.cons_append, readFields]
  show (readString (k.toList.flatMap escaped ++ ['"'] ++ ':' :: cs) >>= _) = _
  rw [hk]
  show (readValue fuel cs >>= _) = _
  rw [h]
  rfl

theorem readFields_last {fuel : Nat} {k : String} {cs rest : List Char} {v : Json}
    (h : readValue fuel cs = some (v, '}' :: rest)) :
    readFields (fuel + 1) (writeString k ++ ':' :: cs) = some ([(k, v)], rest) := by
  rw [readFields_eq h]
  rfl

theorem readFields_comma {fuel : Nat} {k : String} {cs cs' rest : List Char} {v : Json}
    {fs : List (String × Json)} (h : readValue fuel cs = some (v, ',' :: cs'))
    (hrest : readFields fuel cs' = some (fs, rest)) :
    readFields (fuel + 1) (writeString k ++ ':' :: cs) = some ((k, v) :: fs, rest) := by
  rw [readFields_eq h]
  show (readFields fuel cs' >>= _) = _
  rw [hrest]
  rfl

theorem readFields_write {k : String} {v : Json} {fs : List (String × Json)}
    (h : ∀ f ∈ (k, v) :: fs, f.2.ReadsBack) {fuel : Nat} (rest : List Char)
    (hfuel : (v.write ++ writeFields fs).length < fuel) :
    readFields fuel (writeString k ++ ':' :: (v.write ++ (writeFields fs ++ rest))) =
      some ((k, v) :: fs, rest) := by
  induction fs generalizing k v fuel with
  | nil =>
    cases fuel with
    | zero => exact absurd hfuel (Nat.not_lt_zero _)
    | succ fuel =>
      rw [writeFields, List.length_append, List.length_singleton] at hfuel
      have hlength : v.write.length < fuel := by omega
      exact readFields_last (h (k, v) (by simp) fuel _ hlength)
  | cons f fs ih =>
    obtain ⟨k', v'⟩ := f
    cases fuel with
    | zero => exact absurd hfuel (Nat.not_lt_zero _)
    | succ fuel =>
      rw [writeFields, List.length_append, List.length_cons, List.length_append,
        List.length_cons] at hfuel
      have hlength : v.write.length < fuel := by omega
      have hv := h (k, v) (by simp) fuel (writeFields ((k', v') :: fs) ++ rest) hlength
      rw [writeFields, List.cons_append, List.append_assoc, List.cons_append,
        List.append_assoc] at hv ⊢
      exact readFields_comma hv (ih (fun f hf => h f (.tail _ hf)) (by omega))

/-! ### Whole values -/

theorem readValue_items {fuel : Nat} {c : Char} (hc : c ∈ openers) (cs : List Char) :
    readValue (fuel + 1) ('[' :: c :: cs) = do
      let (vs, rest) ← readItems fuel (c :: cs)
      return (arr vs, rest) := by
  simp only [openers, List.mem_cons, List.not_mem_nil, or_false] at hc
  obtain rfl | rfl | rfl | rfl | rfl | rfl := hc <;> rfl

theorem readValue_fields {fuel : Nat} (cs : List Char) :
    readValue (fuel + 1) ('{' :: '"' :: cs) = do
      let (fs, rest) ← readFields fuel ('"' :: cs)
      return (obj fs, rest) := by
  rfl

theorem readsBack_of_succ {v : Json} (h : ∀ fuel rest, v.write.length ≤ fuel →
    readValue (fuel + 1) (v.write ++ rest) = some (v, rest)) : v.ReadsBack := by
  intro fuel rest hfuel
  cases fuel with
  | zero => exact absurd hfuel (Nat.not_lt_zero _)
  | succ fuel => exact h fuel rest (Nat.le_of_lt_succ hfuel)

theorem readsBack_str (s : String) : (str s).ReadsBack := by
  refine readsBack_of_succ fun fuel rest _ => ?_
  rw [write, writeString, List.cons_append, List.append_assoc]
  show (readString (s.toList.flatMap escaped ++ '"' :: rest) >>= _) = _
  rw [readString_write]
  rfl

theorem readsBack_arr {items : List Json} (hitems : ∀ v ∈ items, v.Numberless)
    (h : ∀ v ∈ items, v.ReadsBack) : (arr items).ReadsBack := by
  refine readsBack_of_succ fun fuel rest hfuel => ?_
  cases items with
  | nil => rfl
  | cons v vs =>
    rw [write, List.length_cons] at hfuel
    have hread := readItems_write h rest hfuel
    -- The first item does not start like the end of an empty array.
    obtain ⟨c, hc, cs, hv⟩ := (hitems v (by simp)).exists_write_eq_cons
    rw [write, List.cons_append, List.append_assoc]
    rw [hv, List.cons_append] at hread ⊢
    rw [readValue_items hc, hread]
    rfl

theorem readsBack_obj {fields : List (String × Json)} (h : ∀ f ∈ fields, f.2.ReadsBack) :
    (obj fields).ReadsBack := by
  refine readsBack_of_succ fun fuel rest hfuel => ?_
  cases fields with
  | nil => rfl
  | cons f fs =>
    obtain ⟨k, v⟩ := f
    rw [write, List.length_cons, List.length_append, List.length_cons] at hfuel
    have hlength : (v.write ++ writeFields fs).length < fuel := by omega
    have hread := readFields_write h rest hlength
    rw [write, List.cons_append, List.append_assoc, List.cons_append, List.append_assoc]
    rw [writeString, List.cons_append] at hread ⊢
    rw [readValue_fields, hread]
    rfl

theorem Numberless.readsBack {v : Json} (h : v.Numberless) : v.ReadsBack := by
  induction h with
  | null => exact readsBack_of_succ fun _ _ _ => rfl
  | bool b => cases b <;> exact readsBack_of_succ fun _ _ _ => rfl
  | str s => exact readsBack_str s
  | arr hitems ih => exact readsBack_arr hitems ih
  | obj hfields ih => exact readsBack_obj ih

/-- The text of a value without numbers is read as that value. -/
theorem ofText?_text {v : Json} (h : v.Numberless) : ofText? v.text = some v := by
  rw [ofText?, text, String.toList_ofList]
  have hread := h.readsBack (v.write.length + 1) [] (Nat.lt_succ_self _)
  rw [List.append_nil] at hread
  rw [hread]
  rfl

theorem text_inj {v w : Json} (hv : v.Numberless) (hw : w.Numberless) :
    v.text = w.text ↔ v = w := by
  refine ⟨fun h => ?_, congrArg text⟩
  have hread := ofText?_text hv
  rw [h, ofText?_text hw] at hread
  exact (Option.some.inj hread).symm

end SelectQuery.Json
