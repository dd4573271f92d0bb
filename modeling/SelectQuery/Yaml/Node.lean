import SelectQuery.Decode.Format
import SelectQuery.Json.Basic

/-!
# Nodes

YAML values: scalars, lists, and maps whose keys may be any nodes, in the order in which they were
written. As a format of values, YAML lets null stand for an empty list or record; records are maps
and choices are texts.

Tagged values are left out: a node does not keep its tag. The tag of texts is heeded where a scalar
is read; a node with any other tag is the node without it, so a choice cannot be written as a tag
and a tag does not make a text a number or a flag.
-/

namespace SelectQuery.Yaml

inductive Node where
  | scalar (a : Atom)
  | list (items : List Node)
  | map (entries : List (Node × Node))

namespace Node

def isNull : Node → Bool
  | scalar .null => true
  | _ => false

/-! ### Equality -/

/-- Two zeros are one number whatever their signs. -/
def sameAtom : Atom → Atom → Bool
  | .real x, .real y => x == y || (x.mantissa == 0 && y.mantissa == 0)
  | a, b => a == b

mutual

/-- Whether two nodes are one key: the order of a map's entries does not count. -/
def same : Node → Node → Bool
  | scalar a, scalar b => sameAtom a b
  | list xs, list ys => sameItems xs ys
  | map es, map fs => es.length == fs.length && sameEntries es fs
  | _, _ => false

def sameItems : List Node → List Node → Bool
  | [], [] => true
  | x :: xs, y :: ys => same x y && sameItems xs ys
  | _, _ => false

/-- Whether every entry has its like among others. -/
def sameEntries : List (Node × Node) → List (Node × Node) → Bool
  | [], _ => true
  | (k, v) :: es, fs => fs.any (fun (k', v') => same k k' && same v v') && sameEntries es fs

end

/-- Whether no key stands in a map twice. -/
def distinctKeys : List (Node × Node) → Bool
  | [] => true
  | (k, _) :: es => es.all (fun (k', _) => !same k k') && distinctKeys es

mutual

/-- How many collections lie around the innermost node, itself included. -/
def depth : Node → Nat
  | scalar _ => 0
  | list items => depthItems items + 1
  | map entries => depthEntries entries + 1

def depthItems : List Node → Nat
  | [] => 0
  | x :: xs => max (depth x) (depthItems xs)

def depthEntries : List (Node × Node) → Nat
  | [] => 0
  | (k, v) :: es => max (max (depth k) (depth v)) (depthEntries es)

end

/-! ### As a format of values -/

def found : Node → Found
  | scalar a => .atom a
  | list _ => .list
  | map _ => .record

def key : Node → Key
  | scalar (.text s) => .text s
  | scalar (.int (.ofNat n)) => .natural n
  | n => .other n.found

def layer : Node → Layer Node
  | scalar a => .atom a
  | list items => .list items
  | map entries => .record (entries.map fun (k, v) => (k.key, v))

def wording : Wording := ⟨"unit value", .plain, "a Value::Tagged enum"⟩

instance : Format Node where
  layer := layer
  wording := wording
  listsAsRecords := false
  nullAsEmpty := true
  recordsAsChoices := false

/-! ### As JSON -/

def jsonAtom : Atom → Json
  | .null => .null
  | .bool b => .bool b
  | .int n => .int n
  | .real x => .real x
  | .infinite _ => .null
  | .notANumber => .null
  | .text s => .str s

mutual

/-- The JSON value of a node whose keys are all texts; an infinite number and one that is not a
number become null. -/
def toJson : Node → Except DecodeError Json
  | scalar a => .ok (jsonAtom a)
  | list items => .arr <$> jsonItems items
  | map entries => .obj <$> jsonFields .key entries

def jsonItems : List Node → Except DecodeError (List Json)
  | [] => .ok []
  | x :: xs => do
    let v ← toJson x
    let vs ← jsonItems xs
    return v :: vs

/-- The fields of an object; `wanted` is what the next key is said to have to be. -/
def jsonFields (wanted : Wanted) : List (Node × Node) → Except DecodeError (List (String × Json))
  | [] => .ok []
  | (k, v) :: es =>
    match k with
    | scalar (.text s) => do
      let v ← toJson v
      let fs ← jsonFields .text es
      return (s, v) :: fs
    | k => .error (.wrongType k.found wanted)

end

end Node

end SelectQuery.Yaml
