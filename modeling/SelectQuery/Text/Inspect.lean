import SelectQuery.Text.Quoted

/-!
# Inspection texts

A tree that shows a value with the names of its parts, and its two layouts: on one line, and with
one part to a line. Texts are quoted, so they hold no line break and nothing in them can be taken
for structure.
-/

namespace SelectQuery

inductive Inspect where
  /-- A name or literal, shown as it is. -/
  | atom (name : String)
  | text (s : String)
  | list (items : List Inspect)
  | record (name : String) (fields : List (String × Inspect))
  /-- A named wrapper around one part. -/
  | wrapped (name : String) (part : Inspect)

namespace Inspect

def bool (b : Bool) : Inspect := atom (if b then "true" else "false")

def ofOption {α : Type} (f : α → Inspect) : Option α → Inspect
  | none => atom "None"
  | some a => wrapped "Some" (f a)

/-! ### On one line -/

mutual

def line : Inspect → String
  | atom name => name
  | text s => Text.quoted s
  | list [] => "[]"
  | list (v :: vs) => "[" ++ line v ++ lineItems vs
  | record name [] => name
  | record name ((k, v) :: fs) => name ++ " \x7b " ++ k ++ ": " ++ line v ++ lineFields fs
  | wrapped name part => name ++ "(" ++ line part ++ ")"

/-- The items after the first and the closing bracket. -/
def lineItems : List Inspect → String
  | [] => "]"
  | v :: vs => ", " ++ line v ++ lineItems vs

/-- The fields after the first and the closing brace. -/
def lineFields : List (String × Inspect) → String
  | [] => " \x7d"
  | (k, v) :: fs => ", " ++ k ++ ": " ++ line v ++ lineFields fs

end

/-! ### One part to a line -/

/-- A line break and the indent of a depth, four spaces to a level. -/
def newline (depth : Nat) : String := String.ofList ('\n' :: List.replicate (4 * depth) ' ')

mutual

/-- The text at a depth; every part stands on its own line with a comma after it. -/
def block (depth : Nat) : Inspect → String
  | atom name => name
  | text s => Text.quoted s
  | list [] => "[]"
  | list (v :: vs) => "[" ++ blockItems depth (v :: vs) ++ newline depth ++ "]"
  | record name [] => name
  | record name (f :: fs) =>
    name ++ " \x7b" ++ blockFields depth (f :: fs) ++ newline depth ++ "\x7d"
  | wrapped name part =>
    name ++ "(" ++ newline (depth + 1) ++ block (depth + 1) part ++ "," ++ newline depth ++ ")"

def blockItems (depth : Nat) : List Inspect → String
  | [] => ""
  | v :: vs => newline (depth + 1) ++ block (depth + 1) v ++ "," ++ blockItems depth vs

def blockFields (depth : Nat) : List (String × Inspect) → String
  | [] => ""
  | (k, v) :: fs =>
    newline (depth + 1) ++ k ++ ": " ++ block (depth + 1) v ++ "," ++ blockFields depth fs

end

/-- The text with one part to a line. -/
def lines (v : Inspect) : String := block 0 v

end Inspect

end SelectQuery
