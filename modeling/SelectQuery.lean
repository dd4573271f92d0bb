import SelectQuery.Case.Basic
import SelectQuery.Case.Outline
import SelectQuery.Case.Reading
import SelectQuery.Decode.Error
import SelectQuery.Decode.Format
import SelectQuery.Decode.Json
import SelectQuery.Decode.Record
import SelectQuery.Json.Basic
import SelectQuery.Json.Reader
import SelectQuery.Live.Session
import SelectQuery.Live.Store
import SelectQuery.Number.Binary64
import SelectQuery.Number.Notation
import SelectQuery.Number.Shortest
import SelectQuery.Number.Width
import SelectQuery.Query.Basic
import SelectQuery.Query.Clause
import SelectQuery.Query.Decode
import SelectQuery.Query.Entry
import SelectQuery.Query.Expect
import SelectQuery.Query.Sample
import SelectQuery.Render.Error
import SelectQuery.Render.Keywords
import SelectQuery.Render.Load
import SelectQuery.Render.Log
import SelectQuery.Render.Settings
import SelectQuery.Render.Statement
import SelectQuery.Text.Blank
import SelectQuery.Text.Digits
import SelectQuery.Text.Hidden
import SelectQuery.Text.Inspect
import SelectQuery.Text.Quoted
import SelectQuery.Text.Ranges
import SelectQuery.Yaml.Cursor
import SelectQuery.Yaml.Document
import SelectQuery.Yaml.Error
import SelectQuery.Yaml.Node
import SelectQuery.Yaml.Plain
import SelectQuery.Yaml.Scalar
import SelectQuery.Yaml.Tag
import SelectQuery.Yaml.Token
import SelectQuery.Proofs.Text.Words
import SelectQuery.Proofs.Text.Trim
import SelectQuery.Proofs.Decode.Record
import SelectQuery.Proofs.Json.Reading
import SelectQuery.Proofs.Query.Entry
import SelectQuery.Proofs.Query.Dump
import SelectQuery.Proofs.Render.Text
import SelectQuery.Proofs.Render.Refusal
import SelectQuery.Proofs.Render.Erasure
import SelectQuery.Proofs.Render.Lines
import SelectQuery.Proofs.Render.Reading
import SelectQuery.Proofs.Render.Layout
import SelectQuery.Proofs.Render.Load
import SelectQuery.Proofs.Render.Noted
import SelectQuery.Proofs.Case.Written
import SelectQuery.Proofs.Case.Verdict
import SelectQuery.Proofs.Case.Stream
import SelectQuery.Proofs.Live.Names
import SelectQuery.Proofs.Live.Steps
import SelectQuery.Proofs.Live.History
import SelectQuery.Proofs.Live.Views
import SelectQuery.Proofs.Live.Commute
import SelectQuery.Proofs.Live.Snapshots
import SelectQuery.Proofs.Render.Keywords
import SelectQuery.Proofs.Render.Nesting
import SelectQuery.Proofs.Decode.Slot
import SelectQuery.Proofs.Decode.Forms
import SelectQuery.Proofs.Render.Format
import SelectQuery.Proofs.Text.Bytes
import SelectQuery.Proofs.Case.Grammar
import SelectQuery.Proofs.Case.Meaning
import SelectQuery.Proofs.Decode.Layers
import SelectQuery.Proofs.Json.Same
import SelectQuery.Proofs.Yaml.Mirror
import SelectQuery.Proofs.Case.Formats
import SelectQuery.Proofs.Decode.Codec
import SelectQuery.Proofs.Query.Codec
import SelectQuery.Proofs.Text.Quoted
import SelectQuery.Proofs.Text.Inspect
import SelectQuery.Proofs.Query.Inspect
import SelectQuery.Proofs.Render.Growth
import SelectQuery.Proofs.Text.Normal
import SelectQuery.Proofs.Query.Expect
import SelectQuery.Proofs.Live.Provenance
import SelectQuery.Proofs.Query.Connective
