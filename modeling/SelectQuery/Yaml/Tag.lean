import SelectQuery.Text.Digits
import SelectQuery.Yaml.Cursor
import SelectQuery.Yaml.Error

/-!
# The text of tags

A tag is a handle and the text after it. The text may write octets as a percent sign and two
hexadecimal digits; the octets of one character have to follow one another.
-/

namespace SelectQuery.Yaml

/-! ### Octets -/

/-- The octets that the characters of a tag stand for; all of them but the escapes are ASCII. -/
def tagOctets? : List Char → Option (List Nat)
  | [] => some []
  | '%' :: a :: b :: cs => do
    let high ← Text.digitValue? 16 a
    let low ← Text.digitValue? 16 b
    return (16 * high + low) :: (← tagOctets? cs)
  | '%' :: _ => none
  | c :: cs => do return c.toNat :: (← tagOctets? cs)

/-- How many octets follow this one in a character that starts with it. -/
def octetsAfter? (n : Nat) : Option Nat :=
  if n < 0x80 then some 0
  else if n < 0xC0 then none
  else if n < 0xE0 then some 1
  else if n < 0xF0 then some 2
  else if n < 0xF8 then some 3
  else none

/-- Whether octets form whole characters, where the first `due` of them belong to one that has
already started. -/
def inCharacters : Nat → List Nat → Bool
  | due, [] => due == 0
  | 0, n :: ns =>
    match octetsAfter? n with
    | some due => inCharacters due ns
    | none => false
  | due + 1, n :: ns => 0x80 ≤ n && n < 0xC0 && inCharacters due ns

/-- The text that the characters of a tag write. Only the shape of the octets counts: where it is
right but they encode no text, the text is a replacement character. -/
def tagText? (cs : List Char) : Option String := do
  let octets ← tagOctets? cs
  if inCharacters 0 octets then
    return (String.fromUTF8? (octets.map UInt8.ofNat).toByteArray).getD "\uFFFD"
  else none

/-! ### Reading -/

/-- Whether a character may stand in a tag; some may only between angle brackets. -/
def isTagChar (verbatim : Bool) (c : Char) : Bool :=
  isWordChar c ||
    c ∈ [';', '/', '?', ':', '@', '&', '=', '+', '$', '.', '!', '~', '*', '\'', '(', ')', '%'] ||
    (verbatim && c ∈ [',', '[', ']'])

/-- As much text of a tag as there is. -/
def readTagText (verbatim : Bool) (k : Cursor) : Except SyntaxError (String × Cursor) :=
  let (cs, k) := k.span (isTagChar verbatim)
  match tagText? cs with
  | some text => .ok (text, k)
  | none => .error .badTag

/-- A tag handle: `!`, or a name between two of them. In a directive the second one may be missing
only from the bare `!`. -/
def readTagHandle (inDirective : Bool) (k : Cursor) : Except SyntaxError (List Char × Cursor) :=
  match k.rest with
  | '!' :: _ =>
    let (name, k) := k.next.span isWordChar
    match k.rest with
    | '!' :: _ => .ok ('!' :: (name ++ ['!']), k.next)
    | _ => if inDirective && !name.isEmpty then .error .badTag else .ok ('!' :: name, k)
  | _ => .error .badTag

end SelectQuery.Yaml
