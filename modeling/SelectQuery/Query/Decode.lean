import SelectQuery.Decode.Json
import SelectQuery.Decode.Record
import SelectQuery.Query.Entry

/-!
# Entries read from JSON

The decoders that go with the JSON forms of a query's entries. An alias may be absent or null,
fields that are not known are passed over, and a connective is its token.
-/

namespace SelectQuery

def Item.shape : RecordShape Json Item where
  name := "Selection"
  fields := [
    .of "formula" .required Decoder.text fun s i => { i with formula := s },
    .of "alias" .optional (.optional .text) fun s i => { i with aliasName := s }]
  start := ⟨"", none⟩
  closed := false

def Item.ofJson : Json → Except DecodeError Item := Decoder.record shape

def Source.shape : RecordShape Json Source where
  name := "TableRef"
  fields := [
    .of "table_name" .required Decoder.text fun s t => { t with table := s },
    .of "alias" .optional (.optional .text) fun s t => { t with aliasName := s }]
  start := ⟨"", none⟩
  closed := false

def Source.ofJson : Json → Except DecodeError Source := Decoder.record shape

def Connective.ofJson (v : Json) : Except DecodeError Connective := .ofToken <$> Decoder.text v

def Predicate.shape : RecordShape Json Predicate where
  name := "ConditionalFormula"
  fields := [
    .of "formula" .required Decoder.text fun s p => { p with formula := s },
    .of "operator" .required Connective.ofJson fun c p => { p with connective := c }]
  start := ⟨"", .and⟩
  closed := false

def Predicate.ofJson : Json → Except DecodeError Predicate := Decoder.record shape

def Direction.ofJson : Json → Except DecodeError Direction := Decoder.choice name all

def Join.ofJson : Json → Except DecodeError Join := Decoder.choice name all

def SortKey.shape : RecordShape Json SortKey where
  name := "OrderBy"
  fields := [
    .of "selection" .required Item.ofJson fun i k => { k with item := i },
    .of "direction" .required Direction.ofJson fun d k => { k with direction := d }]
  start := ⟨Item.shape.start, .ascending⟩
  closed := false

def SortKey.ofJson : Json → Except DecodeError SortKey := Decoder.record shape

end SelectQuery
