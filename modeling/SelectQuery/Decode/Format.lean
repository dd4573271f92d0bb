import SelectQuery.Decode.Error

/-!
# Formats

What decoding asks of a format of values: the outermost layer of a value, and the few points in
which formats differ. On top of it stand the decoders of values without fields; those of records
follow in their own module.
-/

namespace SelectQuery

/-- The key of a record's entry. A natural number may stand for a field by its position where a
format allows it. -/
inductive Key where
  | text (s : String)
  | natural (n : Nat)
  | other (found : Found)
  deriving DecidableEq

namespace Key

def found : Key → Found
  | text s => .atom (.text s)
  | natural n => .atom (.int n)
  | other f => f

end Key

/-- The outermost layer of a value. The entries of a record come in the order in which they are
visited. -/
inductive Layer (ν : Type) where
  | atom (a : Atom)
  | list (items : List ν)
  | record (entries : List (Key × ν))

def Layer.found {ν : Type} : Layer ν → Found
  | atom a => .atom a
  | list _ => .list
  | record _ => .record

class Format (ν : Type) where
  layer : ν → Layer ν
  wording : Wording
  /-- A record may be written as the list of its fields' values. -/
  listsAsRecords : Bool
  /-- Null stands for an empty list or record where one is wanted. -/
  nullAsEmpty : Bool
  /-- A choice may be written as a record with the name as its only key and null as its value. -/
  recordsAsChoices : Bool

/-- A decoder of values of the format `ν`. -/
abbrev Decoder (ν α : Type) := ν → Except DecodeError α

namespace Decoder

variable {ν α : Type} [Format ν]

def wrongType (wanted : Wanted) (v : ν) : Except DecodeError α :=
  .error (.wrongType (Format.layer v).found wanted)

def text : Decoder ν String := fun v =>
  match Format.layer v with
  | .atom (.text s) => .ok s
  | _ => wrongType .text v

def bool : Decoder ν Bool := fun v =>
  match Format.layer v with
  | .atom (.bool b) => .ok b
  | _ => wrongType .bool v

/-- Null is absence; anything else has to decode. -/
def optional (d : Decoder ν α) : Decoder ν (Option α) := fun v =>
  match Format.layer v with
  | .atom .null => .ok none
  | _ => some <$> d v

def listOf (d : Decoder ν α) : Decoder ν (List α) := fun v =>
  match Format.layer v with
  | .list items => items.mapM d
  | .atom .null => if Format.nullAsEmpty ν then .ok [] else wrongType .list v
  | _ => wrongType .list v

/-! ### Choices -/

/-- The choice of a given name. -/
def named (name : α → String) (choices : List α) (s : String) : Except DecodeError α :=
  match choices.find? (name · = s) with
  | some a => .ok a
  | none => .error (.unknownChoice s (choices.map name))

/-- One of a closed set of names. -/
def choice (name : α → String) (choices : List α) : Decoder ν α := fun v =>
  match Format.layer v with
  | .atom (.text s) => named name choices s
  | .record entries =>
    if Format.recordsAsChoices ν then
      match entries with
      | [(.text s, payload)] => do
        let a ← named name choices s
        match Format.layer payload with
        | .atom .null => return a
        | _ => wrongType .unit payload
      | _ => .error .notSingleKey
    else wrongType .choice v
  | _ => wrongType .choice v

end Decoder

end SelectQuery
