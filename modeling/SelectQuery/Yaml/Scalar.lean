import SelectQuery.Text.Digits
import SelectQuery.Yaml.Cursor
import SelectQuery.Yaml.Error

/-!
# Scalars

The text of a scalar in each of its styles: plain, single-quoted, double-quoted, literal and folded.
Lines of a plain or quoted scalar are joined by a space, or by the breaks of the empty lines between
them; a block scalar keeps its breaks or folds them, and its header says what becomes of those at
its end.
-/

namespace SelectQuery.Yaml

/-! ### Gaps between the words of a scalar -/

/-- The spaces and breaks between two words: the spaces if all is on one line, otherwise the first
break and those after it. -/
structure Gap where
  spaces : List Char
  firstBreak : List Char
  moreBreaks : List Char
  broken : Bool

namespace Gap

def empty : Gap := ⟨[], [], [], false⟩

/-- A gap that starts with an escaped break, which stands for nothing. -/
def escaped : Gap := ⟨[], [], [], true⟩

/-- What a gap stands for. -/
def text (g : Gap) : List Char :=
  if g.broken then
    match g.firstBreak with
    | ['\n'] => if g.moreBreaks.isEmpty then [' '] else g.moreBreaks
    | b => b ++ g.moreBreaks
  else g.spaces

end Gap

/-- Reads the rest of a gap. A tab may not stand where `indent` columns of indentation are due. -/
def readGap (indent : Int) : List Char → Position → Gap → Except SyntaxError (Gap × Cursor)
  | [], pos, g => .ok (g, ⟨[], pos⟩)
  | c :: cs, pos, g =>
    if isBreak c then
      readGap indent cs (pos.after c)
        (if g.broken then { g with moreBreaks := g.moreBreaks ++ [c] }
          else { g with spaces := [], firstBreak := [c], broken := true })
    else if isSpace c then
      if g.broken && c == '\t' && pos.column < indent then .error .badIndentation
      else readGap indent cs (pos.after c)
        (if g.broken then g else { g with spaces := g.spaces ++ [c] })
    else .ok (g, ⟨c :: cs, pos⟩)

/-! ### Plain scalars -/

def isFlowIndicator (c : Char) : Bool := c == ',' || c == '[' || c == ']' || c == '{' || c == '}'

/-- The characters up to a gap or to what ends a plain scalar: a colon before a gap and, inside
brackets, a flow indicator. -/
def plainWord (flow : Bool) : List Char → Position → Except SyntaxError (List Char × Cursor)
  | [], pos => .ok ([], ⟨[], pos⟩)
  | c :: cs, pos =>
    if isSpace c || isBreak c then .ok ([], ⟨c :: cs, pos⟩)
    else if flow && c == ':' &&
        (match cs with | d :: _ => isFlowIndicator d || d == '?' | [] => false) then
      .error .unexpectedCharacter
    else if (c == ':' && atGap cs) || (flow && isFlowIndicator c) then .ok ([], ⟨c :: cs, pos⟩)
    else do
      let (word, k) ← plainWord flow cs (pos.after c)
      return (c :: word, k)

/-- The text of a plain scalar from a gap on. The scalar ends at a document indicator, at a comment,
at what ends a word, and outside brackets at a line indented less than `indent`. The answer tells
also whether a line break was passed at the end. -/
def plainRest (flow : Bool) (indent : Int) :
    Nat → Gap → Cursor → Except SyntaxError (List Char × Bool × Cursor)
  | 0, g, k => .ok ([], g.broken, k)
  | fuel + 1, g, k =>
    if k.atDocumentIndicator || k.rest.head? == some '#' ||
        (!flow && (k.pos.column : Int) < indent) then
      .ok ([], g.broken, k)
    else do
      let (word, k) ← plainWord flow k.rest k.pos
      if word.isEmpty then return ([], g.broken, k)
      let (next, after) ← readGap indent k.rest k.pos .empty
      if after.pos.offset = k.pos.offset then return (g.text ++ word, false, k)
      let (more, broken, k) ← plainRest flow indent fuel next after
      return (g.text ++ word ++ more, broken, k)

/-- A plain scalar, and whether its end passed a line break. -/
def readPlain (flow : Bool) (indent : Int) (k : Cursor) :
    Except SyntaxError (List Char × Bool × Cursor) := do
  let (word, k) ← plainWord flow k.rest k.pos
  let (gap, after) ← readGap indent k.rest k.pos .empty
  if after.pos.offset = k.pos.offset then return (word, false, k)
  let (more, broken, k) ← plainRest flow indent (k.rest.length + 1) gap after
  return (word ++ more, broken, k)

/-! ### Quoted scalars -/

/-- The character whose code point the first `n` characters write in hexadecimal. -/
def hexChar? (n : Nat) (cs : List Char) : Option Char := do
  let digits := cs.take n
  let value ← Text.digitsValue? 16 digits
  let isScalar := value < 0xD800 || (0xDFFF < value && value ≤ 0x10FFFF)
  if digits.length = n && isScalar then return Char.ofNat value else none

/-- The character that a backslash before these characters writes, and how many of them it takes. -/
def escape? : List Char → Option (Char × Nat)
  | [] => none
  | c :: cs =>
    match c with
    | '0' => some ('\x00', 1)
    | 'a' => some ('\x07', 1)
    | 'b' => some ('\x08', 1)
    | 't' => some ('\t', 1)
    | '\t' => some ('\t', 1)
    | 'n' => some ('\n', 1)
    | 'v' => some ('\x0b', 1)
    | 'f' => some ('\x0c', 1)
    | 'r' => some ('\r', 1)
    | 'e' => some ('\x1b', 1)
    | ' ' => some (' ', 1)
    | '"' => some ('"', 1)
    | '/' => some ('/', 1)
    | '\\' => some ('\\', 1)
    | 'N' => some ('\x85', 1)
    | '_' => some ('\xa0', 1)
    | 'L' => some ('\u2028', 1)
    | 'P' => some ('\u2029', 1)
    | 'x' => (hexChar? 2 cs).map (·, 3)
    | 'u' => (hexChar? 4 cs).map (·, 5)
    | 'U' => (hexChar? 8 cs).map (·, 9)
    | _ => none

/-- The text of a quoted scalar from here to its closing quote. -/
def readQuoted (double : Bool) : Nat → Cursor → Except SyntaxError (List Char × Cursor)
  | 0, _ => .error .unfinishedScalar
  | fuel + 1, k =>
    let gapped (g : Gap × Cursor) : Except SyntaxError (List Char × Cursor) := do
      let (text, k) ← readQuoted double fuel g.2
      return (g.1.text ++ text, k)
    let char (c : Char) (k : Cursor) : Except SyntaxError (List Char × Cursor) := do
      let (text, k) ← readQuoted double fuel k
      return (c :: text, k)
    if k.atDocumentIndicator then .error .unfinishedScalar
    else
      match k.rest with
      | [] => .error .unfinishedScalar
      | c :: cs =>
        if isSpace c || isBreak c then readGap (-1) k.rest k.pos .empty >>= gapped
        else if double then
          if c == '"' then .ok ([], k.next)
          else if c == '\\' then
            match cs with
            | [] => .error .unfinishedScalar
            | d :: ds =>
              if isBreak d then readGap (-1) ds ((k.pos.after c).after d) .escaped >>= gapped
              else
                match escape? cs with
                | some (e, width) => char e (k.skip (width + 1))
                | none => .error .badEscape
          else char c k.next
        else if c == '\'' then
          if cs.head? == some '\'' then char c (k.skip 2) else .ok ([], k.next)
        else char c k.next

/-! ### Block scalars -/

/-- What becomes of the breaks at the end of a block scalar. -/
inductive Chomping where
  | strip
  | clip
  | keep
  deriving DecidableEq

/-- The header of a block scalar: an indentation digit, a chomping sign, both in either order, or
neither. -/
def blockHeader (k : Cursor) : Except SyntaxError (Chomping × Nat × Cursor) :=
  let sign (k : Cursor) : Chomping × Cursor :=
    match k.rest with
    | '+' :: _ => (.keep, k.next)
    | '-' :: _ => (.strip, k.next)
    | _ => (.clip, k)
  let digit (k : Cursor) : Except SyntaxError (Nat × Cursor) :=
    match k.rest with
    | c :: _ =>
      if c == '0' then .error .badBlockHeader
      else if c.isDigit then .ok (c.toNat - 48, k.next)
      else .ok (0, k)
    | [] => .ok (0, k)
  match sign k with
  | (.clip, _) => do
    let (n, k) ← digit k
    if n = 0 then return (.clip, 0, k)
    let (chomping, k) := sign k
    return (chomping, n, k)
  | (chomping, k) => do
    let (n, k) ← digit k
    return (chomping, n, k)

/-- Skips indentation and empty lines: the breaks passed, the greatest column reached, and what
follows. Without a known indentation (`indent = 0`) all spaces count as indentation. -/
def blockBreaks (indent : Nat) : List Char → Position →
    Except SyntaxError (List Char × Nat × Cursor)
  | [], pos => .ok ([], pos.column, ⟨[], pos⟩)
  | c :: cs, pos =>
    let inIndent := indent == 0 || pos.column < indent
    if inIndent && c == ' ' then blockBreaks indent cs (pos.after c)
    else if inIndent && c == '\t' then .error .badIndentation
    else if isBreak c then do
      let (breaks, column, k) ← blockBreaks indent cs (pos.after c)
      return (c :: breaks, max pos.column column, k)
    else .ok ([], pos.column, ⟨c :: cs, pos⟩)

/-- The text of a block scalar from here on. The break before the current line is held back until it
is known whether it is folded into a space, which happens only between lines that do not start with
a space. -/
def blockLines (folded : Bool) (indent : Nat) (chomping : Chomping) :
    Nat → List Char → List Char → Bool → Cursor → Except SyntaxError (List Char × Cursor)
  | 0, _, _, _, k => .ok ([], k)
  | fuel + 1, lastBreak, moreBreaks, lastSpaced, k =>
    if k.pos.column ≠ indent || k.rest.isEmpty then
      .ok (match chomping with
        | .strip => []
        | .clip => lastBreak
        | .keep => lastBreak ++ moreBreaks, k)
    else do
      let spaced := match k.rest with
        | c :: _ => isSpace c
        | [] => false
      let joint :=
        if folded && lastBreak == ['\n'] && !lastSpaced && !spaced then
          if moreBreaks.isEmpty then [' '] else moreBreaks
        else lastBreak ++ moreBreaks
      let (line, k) := k.span fun c => !isBreak c
      let (lineBreak, k) := match k.rest with
        | c :: _ => ([c], k.next)
        | [] => ([], k)
      let (breaks, _, k) ← blockBreaks indent k.rest k.pos
      let (more, k) ← blockLines folded indent chomping fuel lineBreak breaks spaced k
      return (joint ++ line ++ more, k)

/-- A block scalar after its indicator, inside a collection indented by `parent` columns. -/
def readBlock (folded : Bool) (parent : Int) (k : Cursor) :
    Except SyntaxError (List Char × Cursor) := do
  let (chomping, increment, k) ← blockHeader k
  let k := k.skipLineEnd
  let k ← match k.rest with
    | [] => .ok k
    | c :: _ => if isBreak c then .ok k.next else .error .badBlockHeader
  let given := if increment = 0 then 0 else (max parent 0).toNat + increment
  let (breaks, column, k) ← blockBreaks given k.rest k.pos
  let indent := if given = 0 then max column (max (parent + 1).toNat 1) else given
  blockLines folded indent chomping (k.rest.length + 1) [] breaks false k

end SelectQuery.Yaml
