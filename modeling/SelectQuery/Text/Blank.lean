import SelectQuery.Text.Ranges

/-!
# Blanks

The characters with the Unicode White_Space property, and what is done with them: telling a blank
text, trimming, cutting a text into its words, and writing those words with single spaces between
them.
-/

namespace SelectQuery.Text

/-- The code points with the White_Space property. -/
def blankRanges : List (Nat × Nat) :=
  [(0x9, 0xD), (0x20, 0x20), (0x85, 0x85), (0xA0, 0xA0), (0x1680, 0x1680), (0x2000, 0x200A),
    (0x2028, 0x2029), (0x202F, 0x202F), (0x205F, 0x205F), (0x3000, 0x3000)]

def isBlankChar (c : Char) : Bool := inRanges c.toNat blankRanges

/-- A text is blank when it is empty or holds blanks only. -/
def isBlank (s : String) : Bool := s.toList.all isBlankChar

/-! ### Trimming -/

/-- A list without the longest run of `p` at its end. -/
def dropEndWhile (p : Char → Bool) (cs : List Char) : List Char := (cs.reverse.dropWhile p).reverse

/-- A text without the blanks at its two ends. -/
def trimBlanks (s : String) : String :=
  String.ofList (dropEndWhile isBlankChar (s.toList.dropWhile isBlankChar))

/-- A text without the line feeds at its end. -/
def trimEndLines (s : String) : String := String.ofList (dropEndWhile (· == '\n') s.toList)

/-! ### Words -/

/-- The pieces between blanks, empty ones included: one more than there are blanks. -/
def pieces : List Char → List (List Char)
  | [] => [[]]
  | c :: cs =>
    if isBlankChar c then [] :: pieces cs
    else match pieces cs with
      | [] => [[c]]
      | p :: ps => (c :: p) :: ps

/-- The maximal runs without a blank, in order. -/
def words (cs : List Char) : List (List Char) := (pieces cs).filter (!·.isEmpty)

theorem pieces_ne_nil (cs : List Char) : pieces cs ≠ [] := by
  cases cs with
  | nil => simp [pieces]
  | cons c cs =>
    rw [pieces]
    split
    · simp
    · split <;> simp

theorem pieces_append_blank {c : Char} (hc : isBlankChar c = true) (xs ys : List Char) :
    pieces (xs ++ c :: ys) = pieces xs ++ pieces ys := by
  induction xs with
  | nil => simp [pieces, hc]
  | cons x xs ih =>
    rw [List.cons_append, pieces, pieces, ih]
    split
    · rfl
    · cases h : pieces xs with
      | nil => exact absurd h (pieces_ne_nil xs)
      | cons p ps => rfl

/-- A blank parts the words before it from those after it. -/
theorem words_append_blank {c : Char} (hc : isBlankChar c = true) (xs ys : List Char) :
    words (xs ++ c :: ys) = words xs ++ words ys := by
  rw [words, pieces_append_blank hc, List.filter_append]
  rfl

/-- The words of a text with one space between each two. -/
def normalizeBlanks (s : String) : String := " ".intercalate ((words s.toList).map String.ofList)

end SelectQuery.Text
