/-!
# Text with positions

A YAML text as a list of characters with the place of its head: line, column and the octets before
it. Its characters are checked chunk by chunk, so a forbidden character hides the whole chunk in
which it stands and all that follows. Line breaks come in several forms; the usual ones are made
alike before anything is read, so every break is one character.
-/

namespace SelectQuery.Yaml

/-! ### Characters -/

/-- The characters that a YAML text may hold. -/
def isAllowed (c : Char) : Bool :=
  let n := c.toNat
  n == 0x9 || n == 0xA || n == 0xD || (0x20 ≤ n && n ≤ 0x7E) ||
    n == 0x85 || (0xA0 ≤ n && n ≤ 0xD7FF) ||
    (0xE000 ≤ n && n ≤ 0xFFFD) || 0x10000 ≤ n

/-! ### Chunks -/

/-- How many octets of a text are checked at a time. -/
def chunkSize : Nat := 16384

/-- A text in chunks of as many whole characters as fit into `chunkSize` octets, or into `room` for
the first chunk. -/
def chunks (room : Nat) : List Char → List (List Char)
  | [] => [[]]
  | c :: cs =>
    if c.utf8Size ≤ room then (chunks (room - c.utf8Size) cs).modifyHead (c :: ·)
    else [] :: (chunks (chunkSize - c.utf8Size) cs).modifyHead (c :: ·)

/-- The text up to the first chunk in which a forbidden character stands, and whether there is such
a chunk: nothing of it can be read. -/
def readable (cs : List Char) : List Char × Bool :=
  let css := chunks chunkSize cs
  ((css.takeWhile (·.all isAllowed)).flatten, !css.all (·.all isAllowed))

/-! ### Breaks and spaces -/

/-- A text in which a carriage return, with or without a line feed, and a next-line character are
line feeds. -/
def normalizeBreaks : List Char → List Char
  | [] => []
  | '\r' :: '\n' :: cs => '\n' :: normalizeBreaks cs
  | c :: cs => (if c = '\r' ∨ c = '\x85' then '\n' else c) :: normalizeBreaks cs

def isBreak (c : Char) : Bool := c == '\n' || c == '\u2028' || c == '\u2029'

def isSpace (c : Char) : Bool := c == ' ' || c == '\t'

def isWordChar (c : Char) : Bool := c.isAlphanum || c == '_' || c == '-'

/-- Whether nothing but the end of the text, a space or a break comes next. -/
def atGap : List Char → Bool
  | [] => true
  | c :: _ => isSpace c || isBreak c

/-! ### Positions -/

/-- A place in a text: lines and columns are counted in characters, `offset` is the length in UTF-8
octets of what lies before it. -/
structure Position where
  line : Nat
  column : Nat
  offset : Nat

def Position.after (p : Position) (c : Char) : Position :=
  if isBreak c then ⟨p.line + 1, 0, p.offset + c.utf8Size⟩
  else ⟨p.line, p.column + 1, p.offset + c.utf8Size⟩

/-- What has not been read, and where it starts. -/
structure Cursor where
  rest : List Char
  pos : Position

namespace Cursor

def ofText (cs : List Char) : Cursor := ⟨cs, ⟨0, 0, 0⟩⟩

/-- The text after its first character. -/
def next (k : Cursor) : Cursor :=
  match k.rest with
  | [] => k
  | c :: cs => ⟨cs, k.pos.after c⟩

/-- The text after its first `n` characters. -/
def skip : Nat → Cursor → Cursor
  | 0, k => k
  | n + 1, k => skip n k.next

/-- The longest start whose characters all satisfy `p`, and the text after it. -/
def span (p : Char → Bool) (k : Cursor) : List Char × Cursor :=
  let (taken, rest) := k.rest.span p
  (taken, ⟨rest, taken.foldl .after k.pos⟩)

def skipWhile (p : Char → Bool) (k : Cursor) : Cursor := (k.span p).2

/-- Whether the text starts a line with `---` or `...` and a gap after it. -/
def atIndicator (mark : Char) (k : Cursor) : Bool :=
  k.pos.column == 0 &&
    match k.rest with
    | a :: b :: c :: cs => a == mark && b == mark && c == mark && atGap cs
    | _ => false

def atDocumentIndicator (k : Cursor) : Bool := k.atIndicator '-' || k.atIndicator '.'

/-- The text after the spaces, and after the comment if one follows them, up to the end of the
line. -/
def skipLineEnd (k : Cursor) : Cursor :=
  let k := k.skipWhile isSpace
  match k.rest with
  | '#' :: _ => k.skipWhile fun c => !isBreak c
  | _ => k

end Cursor

end SelectQuery.Yaml
