import SelectQuery.Json.Basic
import SelectQuery.Number.Width
import SelectQuery.Text.Digits

/-!
# Reading JSON

A total reader of JSON texts. Every step hands on what it has not read; the depth of the recursion
is bounded by a counter that starts at the length of the text and never runs out, since each level
of nesting takes a character.
-/

namespace SelectQuery.Json

def isSpace (c : Char) : Bool := c == ' ' || c == '\t' || c == '\n' || c == '\r'

def skipSpaces (cs : List Char) : List Char := cs.dropWhile isSpace

/-! ### Strings -/

/-- What the letter after a backslash stands for. -/
def unescaped? (c : Char) : Option Nat :=
  if c = '"' ∨ c = '\\' ∨ c = '/' then some c.toNat
  else if c = 'b' then some 0x08
  else if c = 'f' then some 0x0c
  else if c = 'n' then some 0x0a
  else if c = 'r' then some 0x0d
  else if c = 't' then some 0x09
  else none

/-- The code points and half code points up to the closing quote, and what follows it. -/
def readUnits : List Char → Option (List Nat × List Char)
  | [] => none
  | '"' :: rest => some ([], rest)
  | '\\' :: 'u' :: a :: b :: c :: d :: rest => do
    let n ← Text.digitsValue? 16 [a, b, c, d]
    let (units, rest) ← readUnits rest
    return (n :: units, rest)
  | '\\' :: c :: rest => do
    let n ← unescaped? c
    let (units, rest) ← readUnits rest
    return (n :: units, rest)
  | c :: rest =>
    if c.toNat < 0x20 then none
    else do
      let (units, rest) ← readUnits rest
      return (c.toNat :: units, rest)

def isHighHalf (n : Nat) : Bool := 0xD800 ≤ n && n < 0xDC00
def isLowHalf (n : Nat) : Bool := 0xDC00 ≤ n && n < 0xE000

/-- The characters of code points in which a high half and the low half after it are one character;
a half that stands alone is no character. -/
def joinHalves : List Nat → Option (List Char)
  | [] => some []
  | [n] => if isHighHalf n || isLowHalf n then none else some [Char.ofNat n]
  | n :: m :: rest =>
    if isHighHalf n then
      if isLowHalf m then do
        let cs ← joinHalves rest
        return Char.ofNat (0x10000 + (n - 0xD800) * 0x400 + (m - 0xDC00)) :: cs
      else none
    else if isLowHalf n then none
    else do
      let cs ← joinHalves (m :: rest)
      return Char.ofNat n :: cs

/-- A string after its opening quote. -/
def readString (cs : List Char) : Option (String × List Char) := do
  let (units, rest) ← readUnits cs
  let chars ← joinHalves units
  return (String.ofList chars, rest)

/-! ### Numbers -/

def splitDigits (cs : List Char) : List Char × List Char := cs.span Char.isDigit

/-- The digits after a point, if there is one; a point without digits is refused. -/
def readFraction : List Char → Option (List Char × List Char)
  | '.' :: cs =>
    match splitDigits cs with
    | ([], _) => none
    | (ds, rest) => some (ds, rest)
  | cs => some ([], cs)

/-- The exponent after an `e`, if there is one. -/
def readExponent (cs : List Char) : Option (Option Int × List Char) :=
  match cs with
  | e :: rest =>
    if e = 'e' ∨ e = 'E' then
      let (negative, rest) := match rest with
        | '-' :: rest => (true, rest)
        | '+' :: rest => (false, rest)
        | rest => (false, rest)
      match splitDigits rest with
      | ([], _) => none
      | (ds, rest) =>
        let n : Int := Nat.ofDigitChars 10 ds 0
        some (some (if negative then -n else n), rest)
    else some (none, cs)
  | [] => some (none, [])

/-- A number after its sign. An integer of 64 bits is kept as an integer, a larger one is a real. -/
def readMagnitude (negative : Bool) (cs : List Char) : Option (Json × List Char) :=
  match splitDigits cs with
  | ([], _) => none
  | ('0' :: _ :: _, _) => none
  | (whole, rest) => do
    let (fraction, rest) ← readFraction rest
    let (exponent, rest) ← readExponent rest
    let digits := Nat.ofDigitChars 10 (whole ++ fraction) 0
    let n : Int := if negative then -digits else digits
    let isInt := fraction.isEmpty && exponent.isNone && fitsBits 64 n && !(negative && digits == 0)
    if isInt then return (int n, rest)
    else
      let x ← Binary64.ofDecimal negative digits (exponent.getD 0 - fraction.length)
      return (real x, rest)

def readNumber : List Char → Option (Json × List Char)
  | '-' :: cs => readMagnitude true cs
  | cs => readMagnitude false cs

/-! ### Values -/

mutual

/-- A value at the head of a text. -/
def readValue : Nat → List Char → Option (Json × List Char)
  | 0, _ => none
  | fuel + 1, cs =>
    match skipSpaces cs with
    | 'n' :: 'u' :: 'l' :: 'l' :: rest => some (null, rest)
    | 't' :: 'r' :: 'u' :: 'e' :: rest => some (bool true, rest)
    | 'f' :: 'a' :: 'l' :: 's' :: 'e' :: rest => some (bool false, rest)
    | '"' :: rest => do
      let (s, rest) ← readString rest
      return (str s, rest)
    | '[' :: rest =>
      match skipSpaces rest with
      | ']' :: rest => some (arr [], rest)
      | rest => do
        let (vs, rest) ← readItems fuel rest
        return (arr vs, rest)
    | '{' :: rest =>
      match skipSpaces rest with
      | '}' :: rest => some (obj [], rest)
      | rest => do
        let (fs, rest) ← readFields fuel rest
        return (obj fs, rest)
    | rest => readNumber rest

/-- One or more items up to the closing bracket. -/
def readItems : Nat → List Char → Option (List Json × List Char)
  | 0, _ => none
  | fuel + 1, cs => do
    let (v, rest) ← readValue fuel cs
    match skipSpaces rest with
    | ']' :: rest => return ([v], rest)
    | ',' :: rest => do
      let (vs, rest) ← readItems fuel rest
      return (v :: vs, rest)
    | _ => none

/-- One or more fields up to the closing brace. -/
def readFields : Nat → List Char → Option (List (String × Json) × List Char)
  | 0, _ => none
  | fuel + 1, cs =>
    match skipSpaces cs with
    | '"' :: rest => do
      let (k, rest) ← readString rest
      match skipSpaces rest with
      | ':' :: rest => do
        let (v, rest) ← readValue fuel rest
        match skipSpaces rest with
        | '}' :: rest => return ([(k, v)], rest)
        | ',' :: rest => do
          let (fs, rest) ← readFields fuel rest
          return ((k, v) :: fs, rest)
        | _ => none
      | _ => none
    | _ => none

end

/-- The value that a whole text writes. -/
def ofText? (s : String) : Option Json := do
  let cs := s.toList
  let (v, rest) ← readValue (cs.length + 1) cs
  if (skipSpaces rest).isEmpty then return v else none

end SelectQuery.Json
