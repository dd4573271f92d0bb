import SelectQuery.Decode.Format

/-!
# Decoding records

A record is described by its fields; each says how a value becomes a change to a record that is
being filled in. The entries of a value are read in the order in which they are visited, and the
first that fails decides; then the first required field that is missing; then the changes are made,
from a start that holds the defaults. Where the format allows it a list stands for the fields in the
order of their declaration.
-/

namespace SelectQuery

/-- Whether a field may be left out: never, only where keys are written, or also at the end of a
list. -/
inductive Presence where
  | required
  | optional
  | defaulted
  deriving DecidableEq

/-- A field of a record `σ` in the format `ν`. -/
structure Field (ν σ : Type) where
  key : String
  presence : Presence
  put : ν → Except DecodeError (σ → σ)

/-- The field of a key whose values are decoded and then put in their place. -/
def Field.of {ν σ α : Type} (key : String) (presence : Presence) (d : Decoder ν α)
    (set : α → σ → σ) : Field ν σ :=
  ⟨key, presence, fun v => set <$> d v⟩

/-- A record's name in messages, its fields in the order of their declaration, and the record that
holds the defaults; what a required field holds there is always replaced. -/
structure RecordShape (ν σ : Type) where
  name : String
  fields : List (Field ν σ)
  start : σ
  /-- A key that is no field's is an error; otherwise it is passed over. -/
  closed : Bool

namespace RecordShape

variable {ν σ : Type}

def keys (r : RecordShape ν σ) : List String := r.fields.map (·.key)

def field? (r : RecordShape ν σ) (key : String) : Option (Field ν σ) := r.fields.find? (·.key = key)

/-- The change that an entry makes. -/
def entry (r : RecordShape ν σ) : Key × ν → Except DecodeError (σ → σ)
  | (.text s, v) =>
    match r.field? s with
    | some f => f.put v
    | none => if r.closed then .error (.unknownField s r.keys) else .ok id
  | (k, _) => .error (.wrongType k.found .fieldName)

/-- All changes, made one after the other from the start. -/
def fill (r : RecordShape ν σ) (changes : List (σ → σ)) : σ :=
  changes.foldl (fun s change => change s) r.start

/-- The first required field whose key is not among the given ones. -/
def missing? (r : RecordShape ν σ) (given : List Key) : Option (Field ν σ) :=
  r.fields.find? fun f => f.presence = .required ∧ .text f.key ∉ given

def ofEntries (r : RecordShape ν σ) (entries : List (Key × ν)) : Except DecodeError σ := do
  let changes ← entries.mapM r.entry
  match r.missing? (entries.map (·.1)) with
  | some f => .error (.missingField f.key)
  | none => return r.fill changes

/-- The changes that the elements of a list make to the fields in their order, from the position
`length` on. -/
def elements (r : RecordShape ν σ) : List (Field ν σ) → List ν → Nat →
    Except DecodeError (List (σ → σ))
  | [], [], _ => .ok []
  | [], rest, length => .error (.tooLong (length + rest.length))
  | f :: fs, [], length =>
    if f.presence = .defaulted then elements r fs [] length
    else .error (.tooShort length r.name r.fields.length)
  | f :: fs, v :: vs, length => do
    let change ← f.put v
    let changes ← elements r fs vs (length + 1)
    return change :: changes

def ofItems (r : RecordShape ν σ) (items : List ν) : Except DecodeError σ := do
  let changes ← r.elements r.fields items 0
  return r.fill changes

/-- The entries under the names of their fields where their keys are positions; a position beyond
the last field says nothing. -/
def byName (r : RecordShape ν σ) (entries : List (Key × ν)) : List (Key × ν) :=
  entries.filterMap fun
    | (.natural n, v) => r.keys[n]?.map fun s => (.text s, v)
    | e => some e

end RecordShape

namespace Decoder

variable {ν σ : Type} [Format ν]

def record (r : RecordShape ν σ) : Decoder ν σ := fun v =>
  match Format.layer v with
  | .record entries => r.ofEntries entries
  | .list items => if Format.listsAsRecords ν then r.ofItems items else wrongType (.record r.name) v
  | .atom .null => if Format.nullAsEmpty ν then r.ofEntries [] else wrongType (.record r.name) v
  | _ => wrongType (.record r.name) v

/-- A record, or a text that stands for one. Whatever else is found, and whatever is wrong in the
record, no shape fits. -/
def shorthand {α : Type} (r : RecordShape ν σ) (bare : String → α) (full : σ → α) :
    Decoder ν α := fun v =>
  let noShape : Except DecodeError α := .error (.noShape r.name)
  match Format.layer v with
  | .atom (.text s) => .ok (bare s)
  | .record entries =>
    let entries := r.byName entries
    if (entries.map (·.1)).Nodup then
      match r.ofEntries entries with
      | .ok s => .ok (full s)
      | .error _ => noShape
    else noShape
  | _ => noShape

end Decoder

end SelectQuery
