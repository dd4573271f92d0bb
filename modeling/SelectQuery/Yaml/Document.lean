import SelectQuery.Yaml.Node
import SelectQuery.Yaml.Plain
import SelectQuery.Yaml.Token

/-!
# Documents

The nodes that a list of tokens writes, document by document. A text holds any number of documents;
the first error ends them. A node may be named by an anchor and repeated by its name within its
document. A tag has to have a known handle; it is then dropped, but for the tag of texts, which
makes a plain scalar a text.
-/

namespace SelectQuery.Yaml

/-- What is left of the tokens, and the names that the current document has given. -/
structure Feed where
  tokens : List Token
  handles : List (String × String)
  anchors : List (String × Node)

/-- A step that takes tokens from the feed. -/
abbrev Parse := StateT Feed (Except SyntaxError)

namespace Parse

def fail {α : Type} (e : SyntaxError) : Parse α := throw e

/-- The next token; an error in the text is met here. -/
def peek : Parse Token := do
  match (← get).tokens with
  | [] => return .streamEnd
  | .error e :: _ => fail e
  | t :: _ => return t

def skip : Parse Unit := modify fun f => { f with tokens := f.tokens.drop 1 }

/-! ### Properties of a node -/

/-- The handles that need no directive. -/
def usualHandles : List (String × String) := [("!", "!"), ("!!", "tag:yaml.org,2002:")]

def textTag : String := "tag:yaml.org,2002:str"

/-- The full form of a tag. -/
def expandTag (handle suffix : String) : Parse String := do
  if handle = "" then return suffix
  match ((← get).handles ++ usualHandles).lookup handle with
  | some expansion => return expansion ++ suffix
  | none => fail .badTag

def takeAnchor : Parse (Option String) := do
  match ← peek with
  | .anchor name => skip; return some name
  | _ => return none

def takeTag : Parse (Option String) := do
  match ← peek with
  | .tag handle suffix => skip; return some (← expandTag handle suffix)
  | _ => return none

/-- The anchor and the tag before a node, in either order. -/
def properties : Parse (Option String × Option String) := do
  match ← takeAnchor with
  | some name => return (some name, ← takeTag)
  | none =>
    let tag ← takeTag
    return (← takeAnchor, tag)

/-! ### Nodes -/

/-- A scalar: a plain one means what its text means, unless its tag makes it a text. No other tag is
heeded. -/
def scalar (tag : Option String) (text : String) (plain : Bool) : Parse Node :=
  if plain && tag != some textTag then
    match meaning text with
    | .atom a => pure (.scalar a)
    | .tooLarge => fail .numberTooLarge
  else pure (.scalar (.text text))

def null : Node := .scalar .null

def mapOf (entries : List (Node × Node)) : Parse Node :=
  if Node.distinctKeys entries then pure (.map entries) else fail .duplicateKey

/-- Takes the comma before an item that is not the first; none is needed before the closing
bracket. -/
def separator (first : Bool) (close : Token) : Parse Unit := do
  if first then return
  match ← peek with
  | .flowEntry => skip
  | t => if t = close then return else fail .unexpectedToken

mutual

/-- A node. Block collections start only where blocks may, and a list without indentation of its own
only as a part of a map. -/
def node : Nat → Bool → Bool → Parse Node
  | 0, _, _ => fail .unexpectedToken
  | fuel + 1, block, indentless => do
    match ← peek with
    | .reference name =>
      skip
      match (← get).anchors.lookup name with
      | some n => return n
      | none => fail .undefinedAlias
    | _ =>
      let (anchor, tag) ← properties
      let body ← match ← peek, block, indentless with
        | .scalar text plain, _, _ => skip; scalar tag text plain
        | .flowListStart, _, _ => skip; .list <$> flowItems fuel true
        | .flowMapStart, _, _ => skip; mapOf (← flowEntries fuel true)
        | .blockEntry, _, true => .list <$> bareItems fuel
        | .blockListStart, true, _ => skip; .list <$> blockItems fuel
        | .blockMapStart, true, _ => skip; mapOf (← blockEntries fuel)
        | _, _, _ =>
          if anchor.isSome || tag.isSome then scalar tag "" true else fail .unexpectedToken
      if let some name := anchor then
        modify fun f => { f with anchors := (name, body) :: f.anchors }
      return body

/-- A node, or null where one of the given tokens follows. -/
def nodeUnless : Nat → List Token → Bool → Bool → Parse Node
  | 0, _, _, _ => fail .unexpectedToken
  | fuel + 1, ends, block, indentless => do
    if (← peek) ∈ ends then return null else node fuel block indentless

/-- The entries of a block list up to its end. -/
def blockItems : Nat → Parse (List Node)
  | 0 => fail .unexpectedToken
  | fuel + 1 => do
    match ← peek with
    | .blockEntry =>
      skip
      let v ← nodeUnless fuel [.blockEntry, .blockEnd] true false
      return v :: (← blockItems fuel)
    | .blockEnd => skip; return []
    | _ => fail .unexpectedToken

/-- The entries of a list without indentation of its own, which has no end token. -/
def bareItems : Nat → Parse (List Node)
  | 0 => fail .unexpectedToken
  | fuel + 1 => do
    match ← peek with
    | .blockEntry =>
      skip
      let v ← nodeUnless fuel [.blockEntry, .key, .value, .blockEnd] true false
      return v :: (← bareItems fuel)
    | _ => return []

/-- The entries of a block map up to its end. -/
def blockEntries : Nat → Parse (List (Node × Node))
  | 0 => fail .unexpectedToken
  | fuel + 1 => do
    match ← peek with
    | .key =>
      skip
      let k ← nodeUnless fuel [.key, .value, .blockEnd] true true
      let v ← valueUnless fuel [.key, .value, .blockEnd] true true
      return (k, v) :: (← blockEntries fuel)
    | .blockEnd => skip; return []
    | _ => fail .unexpectedToken

/-- The value of a key: null if there is no colon or nothing after it. -/
def valueUnless : Nat → List Token → Bool → Bool → Parse Node
  | 0, _, _, _ => fail .unexpectedToken
  | fuel + 1, ends, block, indentless => do
    match ← peek with
    | .value => skip; nodeUnless fuel ends block indentless
    | _ => return null

/-- The items of a flow list up to its bracket. A key makes an item a map with one entry; a key
indicator with nothing after it takes the token that follows. -/
def flowItems : Nat → Bool → Parse (List Node)
  | 0, _ => fail .unexpectedToken
  | fuel + 1, first => do
    separator first .flowListEnd
    match ← peek with
    | .flowListEnd => skip; return []
    | .key =>
      skip
      let k ← if (← peek) ∈ [Token.value, .flowEntry, .flowListEnd] then do skip; pure null
        else node fuel false false
      let v ← valueUnless fuel [.flowEntry, .flowListEnd] false false
      return .map [(k, v)] :: (← flowItems fuel false)
    | _ =>
      let v ← node fuel false false
      return v :: (← flowItems fuel false)

/-- The entries of a flow map up to its brace; an entry without a key indicator has no value. -/
def flowEntries : Nat → Bool → Parse (List (Node × Node))
  | 0, _ => fail .unexpectedToken
  | fuel + 1, first => do
    separator first .flowMapEnd
    match ← peek with
    | .flowMapEnd => skip; return []
    | .key =>
      skip
      let k ← nodeUnless fuel [.value, .flowEntry, .flowMapEnd] false false
      let v ← valueUnless fuel [.flowEntry, .flowMapEnd] false false
      return (k, v) :: (← flowEntries fuel false)
    | _ =>
      let k ← node fuel false false
      return (k, null) :: (← flowEntries fuel false)

end

/-! ### Documents -/

/-- The directives before a document: at most one version, which is 1.1 or 1.2, and handles that are
all different. -/
def directives : Nat → Bool → Parse Unit
  | 0, _ => fail .unexpectedToken
  | fuel + 1, versioned => do
    match ← peek with
    | .version major minor =>
      skip
      if versioned || major ≠ 1 || (minor ≠ 1 && minor ≠ 2) then fail .badDirective
      directives fuel true
    | .tagHandle handle expansion =>
      skip
      if (← get).handles.any (·.1 = handle) then fail .badDirective
      modify fun f => { f with handles := (handle, expansion) :: f.handles }
      directives fuel versioned
    | _ => return

/-- The most collections that may lie around a node. -/
def maxDepth : Nat := 128

/-- Takes all tokens that say once more that a document has ended. -/
def skipEnds : Nat → Parse Unit
  | 0 => return
  | fuel + 1 => do
    match ← peek with
    | .documentEnd => skip; skipEnds fuel
    | _ => return

/-- Whether a document is over before anything stands in it. -/
def endsDocument : Token → Bool
  | .version _ _ | .tagHandle _ _ | .documentStart | .documentEnd | .streamEnd => true
  | _ => false

/-- The content of a document and the mark of its end, if there is one; after a mark of its start
there may be nothing. -/
def content (fuel : Nat) (marked : Bool) : Parse Node := do
  let n ← if marked && endsDocument (← peek) then pure null else node fuel true false
  if maxDepth < n.depth then fail .tooDeep
  if (← peek) = .documentEnd then skip
  return n

/-- The next document, if there is one. Only the first may start without a mark; if even that is
missing, it has nothing in it. -/
def document (fuel : Nat) (first : Bool) : Parse (Option Node) := do
  modify fun f => { f with handles := [], anchors := [] }
  if !first then skipEnds fuel
  let t ← peek
  if t = .streamEnd then return if first then some null else none
  else if first && !(endsDocument t && t != .documentEnd) then some <$> content fuel false
  else
    directives fuel false
    if (← peek) = .documentStart then
      skip
      some <$> content fuel true
    else fail .unexpectedToken

/-- The documents that a feed holds, up to the first error. -/
def documents (fuel : Nat) : Nat → Bool → Feed → List (Except SyntaxError Node)
  | 0, _, _ => []
  | n + 1, first, f =>
    match document fuel first f with
    | .error e => [.error e]
    | .ok (none, _) => []
    | .ok (some v, f') => .ok v :: documents fuel n false f'

end Parse

/-- The documents of a text, in order, up to the first error. -/
def documents (text : String) : List (Except SyntaxError Node) :=
  let ts := tokens text
  Parse.documents (4 * ts.length + 8) (ts.length + 1) true ⟨ts, [], []⟩

end SelectQuery.Yaml
