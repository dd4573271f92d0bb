import Mathlib.Data.List.Basic

/-!
# The order of texts

Texts in the order of their characters are in the order of their bytes in UTF-8, since of two
characters the one with the smaller code point has the smaller code (`bytes_lt_bytes_iff`).
-/

namespace SelectQuery.Text

/-- The bytes of a text in UTF-8. -/
def bytes (t : String) : List UInt8 := t.toUTF8.data.toList

theorem bytes_eq_flatMap (t : String) : bytes t = t.toList.flatMap String.utf8EncodeChar := by
  rw [bytes, String.toUTF8, ← String.utf8Encode_toList, List.utf8Encode,
    List.toList_data_toByteArray]

/-- The codes of two characters differ in a byte that both have, whatever comes after them. -/
theorem utf8EncodeChar_append_lt {c d : Char} (h : c < d) (xs ys : List UInt8) :
    String.utf8EncodeChar c ++ xs < String.utf8EncodeChar d ++ ys := by
  have hcode : c.val.toNat < d.val.toNat := h
  have hmax : d.val.toNat < 0x110000 := by
    have hvalid := d.valid
    simp only [UInt32.isValidChar, Nat.isValidChar] at hvalid
    omega
  rw [String.utf8EncodeChar, String.utf8EncodeChar]
  generalize c.val.toNat = m at hcode
  generalize d.val.toNat = n at hcode hmax
  -- The code points compare as their digits to the base 64 do, from the first on.
  have hlow : m / 64 < n / 64 ∨ m / 64 = n / 64 ∧ m % 64 < n % 64 := by omega
  have hmiddle : m / 64 < n / 64 →
      m / 4096 < n / 4096 ∨ m / 4096 = n / 4096 ∧ m / 64 % 64 < n / 64 % 64 := by omega
  have hhigh : m / 4096 < n / 4096 →
      m / 262144 < n / 262144 ∨ m / 262144 = n / 262144 ∧ m / 4096 % 64 < n / 4096 % 64 := by omega
  split_ifs
  all_goals
    simp (disch := omega) only [List.cons_append, List.nil_append, List.cons_lt_cons_iff,
      UInt8.lt_iff_toNat_lt, ← UInt8.toNat_inj, UInt8.toNat_ofNat', Nat.mod_eq_of_lt]
    omega

theorem bytes_lt_bytes_of_lt {s t : String} (h : s < t) : bytes s < bytes t := by
  rw [bytes_eq_flatMap, bytes_eq_flatMap]
  rw [String.lt_iff] at h
  generalize s.toList = cs at h
  generalize t.toList = ds at h
  induction cs generalizing ds with
  | nil =>
    cases ds with
    | nil => exact absurd h (List.lt_irrefl [])
    | cons d ds =>
      obtain ⟨b, rest, hcode⟩ := List.exists_cons_of_ne_nil
        (List.ne_nil_of_length_pos (String.length_utf8EncodeChar d ▸ d.utf8Size_pos))
      rw [List.flatMap_cons, hcode]
      exact List.nil_lt_cons b _
  | cons c cs ih =>
    cases ds with
    | nil => exact absurd h (List.not_lt_nil _)
    | cons d ds =>
      rw [List.flatMap_cons, List.flatMap_cons]
      rcases List.cons_lt_cons_iff.mp h with hlt | ⟨rfl, hlt⟩
      · exact utf8EncodeChar_append_lt hlt _ _
      · exact List.append_left_lt (ih ds hlt)

theorem bytes_lt_bytes_iff {s t : String} : bytes s < bytes t ↔ s < t := by
  refine ⟨fun h => ?_, bytes_lt_bytes_of_lt⟩
  by_contra hle
  rcases Decidable.em (t < s) with hlt | hge
  · exact List.lt_asymm h (bytes_lt_bytes_of_lt hlt)
  · obtain rfl : s = t := String.le_antisymm (String.not_lt.mp hge) (String.not_lt.mp hle)
    exact List.lt_irrefl _ h

end SelectQuery.Text
