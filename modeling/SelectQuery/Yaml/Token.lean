import SelectQuery.Yaml.Scalar
import SelectQuery.Yaml.Tag

/-!
# Tokens

A YAML text as a list of tokens in which the structure that indentation expresses has become
explicit: block collections have a start and an end, and a key has a token before it even where it
is known to be a key only by the colon after it. The list ends with the end of the text or with the
first error.
-/

namespace SelectQuery.Yaml

inductive Token where
  | streamEnd
  | version (major minor : Nat)
  | tagHandle (handle expansion : String)
  | documentStart
  | documentEnd
  | blockListStart
  | blockMapStart
  | blockEnd
  | flowListStart
  | flowListEnd
  | flowMapStart
  | flowMapEnd
  | blockEntry
  | flowEntry
  | key
  | value
  | reference (name : String)
  | anchor (name : String)
  | tag (handle suffix : String)
  | scalar (text : String) (plain : Bool)
  | error (e : SyntaxError)
  deriving DecidableEq

/-- A token that turns out to be a key if a colon follows on its line. -/
structure PossibleKey where
  /-- The number of tokens before it. -/
  number : Nat
  pos : Position
  /-- Where a key is due, a missing colon is an error. -/
  required : Bool

/-- What is known between two tokens. -/
structure Lexer where
  cursor : Cursor
  /-- The tokens so far, the last one first, and their number. -/
  tokens : List Token
  count : Nat
  /-- The columns of the open block collections, the innermost first; -1 outside of all. -/
  indent : Int
  outerIndents : List Int
  /-- The possible key at the present flow level, and those of the levels around it. -/
  possibleKey : Option PossibleKey
  outerKeys : List (Option PossibleKey)
  keyAllowed : Bool
  /-- Whether the text goes on after its end with what cannot be read. -/
  cut : Bool

namespace Lexer

def ofText (cs : List Char) (cut : Bool) : Lexer :=
  ⟨.ofText cs, [], 0, -1, [], none, [], true, cut⟩

def inFlow (s : Lexer) : Bool := !s.outerKeys.isEmpty

def column (s : Lexer) : Nat := s.cursor.pos.column

def add (s : Lexer) (t : Token) : Lexer := { s with tokens := t :: s.tokens, count := s.count + 1 }

/-- Puts a token in front of the token with a given number. -/
def insert (s : Lexer) (number : Nat) (t : Token) : Lexer :=
  { s with tokens := s.tokens.insertIdx (s.count - number) t, count := s.count + 1 }

def advance (s : Lexer) (n : Nat) : Lexer := { s with cursor := s.cursor.skip n }

def allowKey (s : Lexer) (b : Bool) : Lexer := { s with keyAllowed := b }

/-! ### Indentation -/

/-- Closes the block collections indented deeper than a column. -/
def closeTo (s : Lexer) (column : Int) : Lexer :=
  if s.inFlow then s
  else
    let deeper := (s.indent :: s.outerIndents).takeWhile (column < ·)
    match (s.indent :: s.outerIndents).drop deeper.length with
    | [] => s
    | i :: outer =>
      { s with
        indent := i, outerIndents := outer,
        tokens := List.replicate deeper.length .blockEnd ++ s.tokens,
        count := s.count + deeper.length }

/-- Opens a block collection at a column, in front of the token with a given number, if the column
is deeper than the present one. -/
def openAt (s : Lexer) (column : Nat) (number : Nat) (t : Token) : Lexer :=
  if s.inFlow || (column : Int) ≤ s.indent then s
  else { s.insert number t with indent := column, outerIndents := s.indent :: s.outerIndents }

/-! ### Possible keys -/

/-- Gives up the possible key of the present level. -/
def dropKey (s : Lexer) : Except SyntaxError Lexer :=
  match s.possibleKey with
  | some k => if k.required then .error .keyWithoutColon else .ok { s with possibleKey := none }
  | none => .ok s

/-- Notes that the next token may be a key. -/
def saveKey (s : Lexer) : Except SyntaxError Lexer :=
  if s.keyAllowed then do
    let s ← s.dropKey
    let required := !s.inFlow && s.indent == s.column
    return { s with possibleKey := some ⟨s.count, s.cursor.pos, required⟩ }
  else .ok s

/-- How many octets after the start of a key its colon may stand. -/
def keyReach : Nat := 1024

/-- A possible key is out of reach once its line has ended or it lies too far back. -/
def staleKey (here : Position) (k : Option PossibleKey) : Except SyntaxError (Option PossibleKey) :=
  match k with
  | some k =>
    if k.pos.line < here.line || k.pos.offset + keyReach < here.offset then
      if k.required then .error .keyWithoutColon else .ok none
    else .ok (some k)
  | none => .ok none

def dropStaleKeys (s : Lexer) : Except SyntaxError Lexer := do
  let outer ← s.outerKeys.mapM (staleKey s.cursor.pos)
  let own ← staleKey s.cursor.pos s.possibleKey
  return { s with possibleKey := own, outerKeys := outer }

/-! ### Between tokens -/

/-- Skips blanks, comments and breaks, and a byte order mark at the start of a line. A tab counts as
a blank only where no key may start; outside brackets a key may start on a new line. -/
def skipGaps : Nat → Lexer → Lexer
  | 0, s => s
  | fuel + 1, s =>
    let tabs := s.inFlow || !s.keyAllowed
    let marked := s.column == 0 && s.cursor.rest.head? == some '\uFEFF'
    let k := if marked then s.cursor.next else s.cursor
    let k := k.skipWhile fun c => c == ' ' || (tabs && c == '\t')
    let k := match k.rest with
      | '#' :: _ => k.skipWhile fun c => !isBreak c
      | _ => k
    match k.rest with
    | c :: _ =>
      if isBreak c then
        skipGaps fuel { s with cursor := k.next, keyAllowed := s.keyAllowed || !s.inFlow }
      else { s with cursor := k }
    | [] => { s with cursor := k }

/-! ### Directives, anchors and tags -/

/-- A part of a version number: one to nine digits. -/
private def versionPart (k : Cursor) : Except SyntaxError (Nat × Cursor) :=
  let (digits, k) := k.span Char.isDigit
  if digits.isEmpty || 9 < digits.length then .error .badDirective
  else .ok (Nat.ofDigitChars 10 digits 0, k)

/-- The value of a version directive. -/
private def versionValue (k : Cursor) : Except SyntaxError (Token × Cursor) := do
  let (major, k) ← versionPart (k.skipWhile isSpace)
  match k.rest with
  | '.' :: _ =>
    let (minor, k) ← versionPart k.next
    return (.version major minor, k)
  | _ => .error .badDirective

/-- The value of a tag directive: a handle and what it stands for. -/
private def handleValue (k : Cursor) : Except SyntaxError (Token × Cursor) := do
  let (handle, k) ← readTagHandle true (k.skipWhile isSpace)
  match k.rest with
  | c :: _ =>
    if isSpace c then
      let (expansion, k) ← readTagText true (k.skipWhile isSpace)
      if expansion.isEmpty || !atGap k.rest then .error .badDirective
      else return (.tagHandle (String.ofList handle) expansion, k)
    else .error .badDirective
  | [] => .error .badDirective

private def readDirective (k : Cursor) : Except SyntaxError (Token × Cursor) := do
  let (name, k) := k.next.span isWordChar
  if !atGap k.rest then .error .badDirective
  else
    let (token, k) ← match String.ofList name with
      | "YAML" => versionValue k
      | "TAG" => handleValue k
      | _ => .error .badDirective
    let k := k.skipLineEnd
    match k.rest with
    | [] => return (token, k)
    | c :: _ => if isBreak c then return (token, k.next) else .error .badDirective

/-- The name of an anchor or alias after its indicator. -/
private def anchorName (k : Cursor) : Except SyntaxError (String × Cursor) :=
  let (name, k) := k.next.span isWordChar
  let ends := atGap k.rest ||
    match k.rest with
    | c :: _ => c ∈ ['?', ':', ',', ']', '}', '%', '@', '`']
    | [] => true
  if name.isEmpty || !ends then .error .badAnchor else .ok (String.ofList name, k)

private def readTag (inFlow : Bool) (k : Cursor) : Except SyntaxError (Token × Cursor) := do
  let (token, k) ← match k.rest with
    | '!' :: '<' :: _ =>
      let (text, k) ← readTagText true (k.skip 2)
      match k.rest with
      | '>' :: _ => if text.isEmpty then .error .badTag else .ok (Token.tag "" text, k.next)
      | _ => .error .badTag
    | _ =>
      let (handle, k) ← readTagHandle false k
      let (suffix, k) ← readTagText false k
      if 1 < handle.length && handle.getLast? == some '!' then
        if suffix.isEmpty then .error .badTag else .ok (.tag (String.ofList handle) suffix, k)
      else .ok (.tag "!" (String.ofList (handle.drop 1) ++ suffix), k)
  let ends := atGap k.rest || (inFlow && k.rest.head? == some ',')
  if ends then return (token, k) else .error .badTag

/-! ### One token -/

/-- A token that ends all open blocks and cannot be part of a key. -/
private def unindented (s : Lexer) : Except SyntaxError Lexer := do
  let s ← (s.closeTo (-1)).dropKey
  return s.allowKey false

/-- At the end of the text its last line has ended, with a break or without. -/
private def endLine (s : Lexer) : Lexer :=
  if s.column = 0 then s
  else { s with cursor := ⟨[], ⟨s.cursor.pos.line + 1, 0, s.cursor.pos.offset⟩⟩ }

private def openFlow (t : Token) (s : Lexer) : Except SyntaxError Lexer := do
  let s ← s.saveKey
  let s := { s with
    possibleKey := none, outerKeys := s.possibleKey :: s.outerKeys, keyAllowed := true }
  return (s.advance 1).add t

private def closeFlow (t : Token) (s : Lexer) : Except SyntaxError Lexer := do
  let s ← s.dropKey
  let s := match s.outerKeys with
    | k :: outer => { s with possibleKey := k, outerKeys := outer }
    | [] => s
  return ((s.allowKey false).advance 1).add t

private def flowSeparator (s : Lexer) : Except SyntaxError Lexer := do
  let s ← s.dropKey
  return ((s.allowKey true).advance 1).add .flowEntry

/-- An entry or key indicator, which outside brackets opens a collection where none is open at its
column. -/
private def blockIndicator (opens t : Token) (allowAfter : Bool) (s : Lexer) :
    Except SyntaxError Lexer :=
  if !s.inFlow && !s.keyAllowed then .error .entryNotAllowed
  else do
    let s ← (s.openAt s.column s.count opens).dropKey
    return ((s.allowKey allowAfter).advance 1).add t

/-- A colon: the possible key before it, if there is one, is a key. -/
private def valueIndicator (s : Lexer) : Except SyntaxError Lexer :=
  match s.possibleKey with
  | some k =>
    let s := (s.insert k.number .key).openAt k.pos.column k.number .blockMapStart
    .ok ((({ s with possibleKey := none }.allowKey false).advance 1).add .value)
  | none =>
    if !s.inFlow && !s.keyAllowed then .error .entryNotAllowed
    else
      let s := s.openAt s.column s.count .blockMapStart
      .ok (((s.allowKey (!s.inFlow)).advance 1).add .value)

/-- A token that may be a key, read by a function of the cursor. -/
private def simple (read : Cursor → Except SyntaxError (Token × Cursor)) (s : Lexer) :
    Except SyntaxError Lexer := do
  let s ← s.saveKey
  let (t, k) ← read s.cursor
  return { s.allowKey false with cursor := k }.add t

private def quotedScalar (double : Bool) (k : Cursor) : Except SyntaxError (Token × Cursor) := do
  let (text, k) ← readQuoted double (k.rest.length + 1) k.next
  return (.scalar (String.ofList text) false, k)

private def blockScalar (folded : Bool) (s : Lexer) : Except SyntaxError Lexer := do
  let s ← s.dropKey
  let (text, k) ← readBlock folded s.indent s.cursor.next
  return { s.allowKey true with cursor := k }.add (.scalar (String.ofList text) false)

private def plainScalar (s : Lexer) : Except SyntaxError Lexer := do
  let s ← s.saveKey
  let (text, broken, k) ← readPlain s.inFlow (s.indent + 1) s.cursor
  return { s.allowKey broken with cursor := k }.add (.scalar (String.ofList text) true)

/-- Whether a plain scalar may start here: with no indicator, or with one that what follows makes a
letter. -/
private def startsPlain (inFlow : Bool) : List Char → Bool
  | [] => false
  | c :: cs =>
    if isSpace c || isBreak c then false
    else if c == '-' then !cs.head?.any isSpace
    else if c == '?' || c == ':' then !inFlow && !atGap cs
    else c ∉ [',', '[', ']', '{', '}', '#', '&', '*', '!', '|', '>', '\'', '"', '%', '@', '`']

/-- Adds the token that starts here, and those that end or open collections before it. -/
def readToken (s : Lexer) : Except SyntaxError Lexer := do
  let s ← s.dropStaleKeys
  let s := s.closeTo s.column
  match s.cursor.rest with
  | [] =>
    let s ← s.endLine.unindented
    return s.add .streamEnd
  | c :: cs =>
    if c == '%' && s.column == 0 then
      let s ← s.unindented
      let (t, k) ← readDirective s.cursor
      return { s with cursor := k }.add t
    else if s.cursor.atIndicator '-' then
      let s ← s.unindented
      return (s.advance 3).add .documentStart
    else if s.cursor.atIndicator '.' then
      let s ← s.unindented
      return (s.advance 3).add .documentEnd
    else if c == '[' then openFlow .flowListStart s
    else if c == '{' then openFlow .flowMapStart s
    else if c == ']' then closeFlow .flowListEnd s
    else if c == '}' then closeFlow .flowMapEnd s
    else if c == ',' then flowSeparator s
    else if c == '-' && atGap cs then blockIndicator .blockListStart .blockEntry true s
    else if c == '?' && (s.inFlow || atGap cs) then blockIndicator .blockMapStart .key (!s.inFlow) s
    else if c == ':' && (s.inFlow || atGap cs) then valueIndicator s
    else if c == '*' then
      simple (fun k => do let (name, k) ← anchorName k; return (.reference name, k)) s
    else if c == '&' then
      simple (fun k => do let (name, k) ← anchorName k; return (.anchor name, k)) s
    else if c == '!' then simple (readTag s.inFlow) s
    else if c == '|' && !s.inFlow then blockScalar false s
    else if c == '>' && !s.inFlow then blockScalar true s
    else if c == '\'' then simple (quotedScalar false) s
    else if c == '"' then simple (quotedScalar true) s
    else if startsPlain s.inFlow (c :: cs) then plainScalar s
    else .error .unexpectedCharacter

/-- An error where the text is cut and fewer than `n` characters are left before that. -/
def require (n : Nat) (s : Lexer) : Except SyntaxError Unit :=
  if s.cut && (s.cursor.rest.take n).length < n then .error .forbiddenCharacter else .ok ()

/-- Adds the next token. Four characters from its start on have to be readable, and one after its
end. -/
def step (s : Lexer) : Except SyntaxError Lexer := do
  let s := skipGaps (s.cursor.rest.length + 1) s
  s.require 4
  let s ← s.readToken
  s.require 1
  return s

/-! ### All tokens -/

/-- How many of the tokens are settled: all before the first that may still turn out to be a key. -/
def settled (s : Lexer) : Nat :=
  (s.possibleKey :: s.outerKeys).foldl (fun n k => k.elim n (min n ·.number)) s.count

/-- The first `n` tokens and the error that keeps the next one from being known. -/
def failAfter (s : Lexer) (n : Nat) (e : SyntaxError) : List Token :=
  s.tokens.reverse.take n ++ [.error e]

/-- The tokens from a state on, in which no possible key is stale. An error is met before every
token that is not settled at that time: what such a token is depends on the text beyond the
error. -/
def run : Nat → Lexer → List Token
  | 0, s => s.tokens.reverse
  | fuel + 1, s =>
    match s.step with
    | .error e => s.failAfter s.settled e
    | .ok s' =>
      match s'.dropStaleKeys with
      | .error e => s'.failAfter s.settled e
      | .ok s' => if s'.tokens.head? = some .streamEnd then s'.tokens.reverse else run fuel s'

end Lexer

/-- The tokens of a text, up to its end or the first error. -/
def tokens (text : String) : List Token :=
  let (cs, cut) := readable text.toList
  Lexer.run (cs.length + 2) (.ofText (normalizeBreaks cs) cut)

end SelectQuery.Yaml
