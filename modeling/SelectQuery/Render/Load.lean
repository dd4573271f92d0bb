import SelectQuery.Decode.Json
import SelectQuery.Decode.Record
import SelectQuery.Render.Settings

/-!
# Settings read from JSON

The decoder that goes with the JSON form of settings: every field may be left out and keeps its
default, and a key that is no field's is an error. Loading checks what was read, so loaded settings
can be used as they are.
-/

namespace SelectQuery

def AliasStyle.ofJson : Json → Except DecodeError AliasStyle := Decoder.choice name all

namespace Settings

def shape : RecordShape Json Settings where
  name := "RenderConfig"
  fields := [
    .of "pretty" .defaulted Decoder.bool fun b s => { s with pretty := b },
    .of "indent" .defaulted Decoder.text fun t s => { s with indent := t },
    .of "tableAlias" .defaulted AliasStyle.ofJson fun a s => { s with aliasStyle := a },
    .of "parenthesizePredicates" .defaulted Decoder.bool fun b s => { s with parenthesize := b },
    .of "rejectEmptyFormulas" .defaulted Decoder.bool fun b s => { s with rejectBlank := b }]
  start := {}
  closed := true

/-- Settings as written, unchecked. -/
def ofJson : Json → Except DecodeError Settings := Decoder.record shape

/-- Settings as written, checked. -/
def load (v : Json) : Except RenderError Settings :=
  match ofJson v with
  | .error e => .error (.invalidSettings (e.message Json.wording))
  | .ok s => do
    s.validate
    return s

end Settings

end SelectQuery
