import SelectQuery.Decode.Format
import SelectQuery.Json.Basic

/-!
# JSON as a format

The fields of an object are visited in increasing order of their keys. A list may stand for a
record, and an object with one key for a choice.
-/

namespace SelectQuery

namespace Json

def layer : Json → Layer Json
  | null => .atom .null
  | bool b => .atom (.bool b)
  | int n => .atom (.int n)
  | real x => .atom (.real x)
  | str s => .atom (.text s)
  | arr items => .list items
  | obj fields => .record ((sortFields fields).map fun (k, v) => (.text k, v))

def wording : Wording := ⟨"null", .scientific, "string or map"⟩

instance : Format Json where
  layer := layer
  wording := wording
  listsAsRecords := true
  nullAsEmpty := false
  recordsAsChoices := true

end Json

end SelectQuery
