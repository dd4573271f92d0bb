import SelectQuery.Case.Basic
import SelectQuery.Yaml.Document

/-!
# Reading cases

A file of cases is a stream of YAML documents, one case in each; documents with nothing in them are
passed over but counted. Every case has to expect either a text or an error. The first document that
is not such a case ends the reading.
-/

namespace SelectQuery

/-- Why a file cannot be read as text. -/
inductive FileFault where
  | notFound
  | notText
  deriving DecidableEq

/-- What is wrong with a document: it is no YAML, or not of the shape of a case. -/
inductive DocumentFault where
  | text (e : Yaml.SyntaxError)
  | shape (e : DecodeError)
  deriving DecidableEq

inductive CaseError where
  | file (fault : FileFault)
  | document (index : Nat) (fault : DocumentFault)
  /-- A case expects nothing, or both a text and an error. -/
  | ambiguous (description : String)
  /-- There is no case at all. -/
  | empty
  deriving DecidableEq

def FileFault.message : FileFault → String
  | .notFound => "No such file or directory (os error 2)"
  | .notText => "stream did not contain valid UTF-8"

namespace CaseError

/-- The wording of an error; that of a text that is no YAML is left open. -/
def message? : CaseError → Option String
  | file fault => some ("IO error: " ++ fault.message)
  | document _ (.text _) => none
  | document index (.shape e) =>
    some ("Invalid YAML in document " ++ toString index ++ ": " ++ e.message Yaml.Node.wording)
  | ambiguous description =>
    some ("Case '" ++ description ++ "' must set exactly one of 'expected' or 'error'")
  | empty => some "Empty render case file"

end CaseError

namespace Case

def ofNode : Yaml.Node → Except DecodeError Case := Decoder.record (shape Yaml.Node.toJson)

/-- The case that a document holds, if it holds anything. -/
def ofDocument (index : Nat) : Except Yaml.SyntaxError Yaml.Node → Except CaseError (Option Case)
  | .error e => .error (.document index (.text e))
  | .ok v =>
    if v.isNull then .ok none
    else
      match ofNode v with
      | .error e => .error (.document index (.shape e))
      | .ok c => if c.isAmbiguous then .error (.ambiguous c.description) else .ok (some c)

/-- The cases of the documents numbered from `index` on. -/
def collect (index : Nat) : List (Except Yaml.SyntaxError Yaml.Node) → Except CaseError (List Case)
  | [] => .ok []
  | d :: ds => do
    let c ← ofDocument index d
    let cs ← collect (index + 1) ds
    return c.toList ++ cs

/-- The cases of a stream of documents, of which there has to be one at least. -/
def ofDocuments (ds : List (Except Yaml.SyntaxError Yaml.Node)) : Except CaseError (List Case) := do
  let cs ← collect 0 ds
  if cs.isEmpty then throw .empty
  return cs

def ofText (content : String) : Except CaseError (List Case) := ofDocuments (Yaml.documents content)

/-- The cases of a file with these bytes, or of one that does not exist. -/
def ofFile : Option ByteArray → Except CaseError (List Case)
  | none => .error (.file .notFound)
  | some bytes =>
    match String.fromUTF8? bytes with
    | some content => ofText content
    | none => .error (.file .notText)

end Case

end SelectQuery
