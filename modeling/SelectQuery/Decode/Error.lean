import SelectQuery.Number.Notation
import SelectQuery.Text.Quoted

/-!
# Decoding errors

Why a value is not of the shape that was asked for. An error holds what was found and what was
wanted; its wording depends on the format only in the names of a few things.
-/

namespace SelectQuery

/-- A value without parts. -/
inductive Atom where
  | null
  | bool (b : Bool)
  | int (n : Int)
  | real (x : Binary64)
  | infinite (negative : Bool)
  | notANumber
  | text (s : String)
  deriving DecidableEq

/-- What stands where something else was wanted. -/
inductive Found where
  | atom (a : Atom)
  | list
  | record
  deriving DecidableEq

inductive Wanted where
  | text
  | bool
  | list
  | unit
  | record (name : String)
  /-- One of a closed set of names. -/
  | choice
  | fieldName
  | key
  deriving DecidableEq

inductive DecodeError where
  | wrongType (found : Found) (wanted : Wanted)
  /-- A choice written as a record has a single key. -/
  | notSingleKey
  /-- A record written as a list lacks elements. -/
  | tooShort (length : Nat) (record : String) (size : Nat)
  /-- A record written as a list has more elements than fields. -/
  | tooLong (length : Nat)
  | missingField (key : String)
  | unknownField (key : String) (known : List String)
  | unknownChoice (name : String) (known : List String)
  /-- None of the shapes that are allowed fits. -/
  | noShape (name : String)
  deriving DecidableEq

/-- How errors in values of one format are worded. -/
structure Wording where
  null : String
  reals : Notation
  choice : String

namespace DecodeError

/-- A name between backticks. -/
def ticked (s : String) : String := "`" ++ s ++ "`"

/-- The names that would have been known. -/
def oneOf : List String → String
  | [a] => ticked a
  | [a, b] => ticked a ++ " or " ++ ticked b
  | names => "one of " ++ ", ".intercalate (names.map ticked)

def describeAtom (w : Wording) : Atom → String
  | .null => w.null
  | .bool b => "boolean " ++ ticked (if b then "true" else "false")
  | .int n => "integer " ++ ticked (toString n)
  | .real x => "floating point " ++ ticked (String.ofList (w.reals.write x))
  | .infinite negative => "floating point " ++ ticked (if negative then "-inf" else "inf")
  | .notANumber => "floating point " ++ ticked "NaN"
  | .text s => "string " ++ Text.quoted s

def describeFound (w : Wording) : Found → String
  | .atom a => describeAtom w a
  | .list => "sequence"
  | .record => "map"

def describeWanted (w : Wording) : Wanted → String
  | .text => "a string"
  | .bool => "a boolean"
  | .list => "a sequence"
  | .unit => "unit"
  | .record name => "struct " ++ name
  | .choice => w.choice
  | .fieldName => "field identifier"
  | .key => "a string key"

def message (w : Wording) : DecodeError → String
  | wrongType found wanted =>
    "invalid type: " ++ describeFound w found ++ ", expected " ++ describeWanted w wanted
  | notSingleKey => "invalid value: map, expected map with a single key"
  | tooShort length record size =>
    "invalid length " ++ toString length ++ ", expected struct " ++ record ++
      " with " ++ toString size ++
      " elements"
  | tooLong length => "invalid length " ++ toString length ++ ", expected fewer elements in array"
  | missingField key => "missing field " ++ ticked key
  | unknownField key known => "unknown field " ++ ticked key ++ ", expected " ++ oneOf known
  | unknownChoice name known => "unknown variant " ++ ticked name ++ ", expected " ++ oneOf known
  | noShape name => "data did not match any variant of untagged enum " ++ name

end DecodeError

end SelectQuery
