import SelectQuery.Case.Outline
import SelectQuery.Render.Load
import SelectQuery.Render.Statement

/-!
# Cases

A written case describes a query, the settings to write it with, and what is to come of it: a text
or the name of a refusal. A case is judged by comparing that with what does come of it.
-/

namespace SelectQuery

structure Case where
  description : String
  /-- Settings as written; without them the defaults apply. -/
  payload : Option Json
  outline : Outline
  expected : Option String
  error : Option String

/-- What a case expects to come of its query. -/
inductive Expectation where
  | sql (text : String)
  | error (name : String)
  deriving DecidableEq

/-- Whether an outcome is what is expected. -/
def Expectation.meets : Expectation → Except RenderError String → Bool
  | .sql text, .ok actual => actual = text
  | .error name, .error e => e.name = name
  | _, _ => false

namespace Case

/-- A text is expected without the line feeds at its end, an error without the blanks around it; if
both are given the text counts. -/
def expectation (c : Case) : Option Expectation :=
  match c.expected, c.error with
  | some text, _ => some (.sql (Text.trimEndLines text))
  | none, some name => some (.error (Text.trimBlanks name))
  | none, none => none

def query (c : Case) : Query := c.outline.query

/-- The settings of a case, loaded from what is written. -/
def settings (c : Case) : Except RenderError Settings :=
  match c.payload with
  | none => .ok {}
  | some v => Settings.load v

/-- What comes of the query: a text, or the refusal of its settings or of the query itself. -/
def outcome (c : Case) : Except RenderError String := do
  let s ← c.settings
  s.statement c.query

/-- A case passes when it expects something and that comes of it. -/
def passes (c : Case) : Bool :=
  match c.expectation with
  | some e => e.meets c.outcome
  | none => false

/-- A case has to expect a text or an error and not both. -/
def isAmbiguous (c : Case) : Bool := c.expected.isSome == c.error.isSome

/-! ### Read from a format -/

/-- The fields of a case; how settings become JSON depends on the format. -/
def shape {ν : Type} [Format ν] (payload : Decoder ν Json) : RecordShape ν Case where
  name := "RenderCase"
  fields := [
    .of "description" .required Decoder.text fun s c => { c with description := s },
    .of "config" .defaulted (.optional payload) fun v c => { c with payload := v },
    .of "model" .defaulted Outline.decode fun o c => { c with outline := o },
    .of "expected" .defaulted (.optional .text) fun s c => { c with expected := s },
    .of "error" .defaulted (.optional .text) fun s c => { c with error := s }]
  start := ⟨"", none, {}, none, none⟩
  closed := false

/-- A case written as JSON; its settings are kept as they are. -/
def ofJson : Json → Except DecodeError Case := Decoder.record (shape .ok)

end Case

end SelectQuery
