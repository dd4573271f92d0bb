import SelectQuery.Number.Notation

/-!
# JSON values

JSON values with the fields of an object in the order in which they were written, and their compact
text. Integers and reals are kept apart, as their texts are: a real always has a point or an
exponent.
-/

namespace SelectQuery

inductive Json where
  | null
  | bool (b : Bool)
  | int (n : Int)
  | real (x : Binary64)
  | str (s : String)
  | arr (items : List Json)
  | obj (fields : List (String × Json))

namespace Json

def ofOption {α : Type} (f : α → Json) : Option α → Json
  | none => null
  | some a => f a

def ofNat (n : Nat) : Json := int n

/-! ### Compact text -/

/-- A character inside a JSON string: the quote, the backslash and the controls below the space are
escaped, all else stands for itself. -/
def escaped (c : Char) : List Char :=
  if c = '"' then ['\\', '"']
  else if c = '\\' then ['\\', '\\']
  else if c = '\x08' then ['\\', 'b']
  else if c = '\x0c' then ['\\', 'f']
  else if c = '\n' then ['\\', 'n']
  else if c = '\r' then ['\\', 'r']
  else if c = '\t' then ['\\', 't']
  else if c.toNat < 0x20 then
    ['\\', 'u', '0', '0', Nat.digitChar (c.toNat / 16), Nat.digitChar (c.toNat % 16)]
  else [c]

def writeString (s : String) : List Char := '"' :: (s.toList.flatMap escaped ++ ['"'])

def writeInt (n : Int) : List Char :=
  if n < 0 then '-' :: Nat.toDigits 10 n.natAbs else Nat.toDigits 10 n.natAbs

mutual

/-- The text without any space between tokens. -/
def write : Json → List Char
  | null => ['n', 'u', 'l', 'l']
  | bool true => ['t', 'r', 'u', 'e']
  | bool false => ['f', 'a', 'l', 's', 'e']
  | int n => writeInt n
  | real x => Notation.scientific.write x
  | str s => writeString s
  | arr [] => ['[', ']']
  | arr (v :: vs) => '[' :: (write v ++ writeItems vs)
  | obj [] => ['{', '}']
  | obj ((k, v) :: fs) => '{' :: (writeString k ++ ':' :: (write v ++ writeFields fs))

/-- The items after the first and the closing bracket. -/
def writeItems : List Json → List Char
  | [] => [']']
  | v :: vs => ',' :: (write v ++ writeItems vs)

/-- The fields after the first and the closing brace. -/
def writeFields : List (String × Json) → List Char
  | [] => ['}']
  | (k, v) :: fs => ',' :: (writeString k ++ ':' :: (write v ++ writeFields fs))

end

/-- The compact text of a value. -/
def text (v : Json) : String := String.ofList v.write

/-! ### Fields in order of their keys -/

/-- Puts a field where its key belongs, in place of one with the same key. -/
def insertField (k : String) (v : Json) : List (String × Json) → List (String × Json)
  | [] => [(k, v)]
  | (k', v') :: rest =>
    if k < k' then (k, v) :: (k', v') :: rest
    else if k = k' then (k, v) :: rest
    else (k', v') :: insertField k v rest

/-- The fields in increasing order of their keys; of several with one key the last stays. -/
def sortFields (fields : List (String × Json)) : List (String × Json) :=
  fields.foldl (fun sorted (k, v) => insertField k v sorted) []

end Json

end SelectQuery
