import SelectQuery.Decode.Record
import SelectQuery.Query.Basic

/-!
# Outlines

A query as a person writes it down in a case: entries may be bare formulas, and whatever is left out
has its usual value. An outline builds the query that it means.
-/

namespace SelectQuery

/-- An item or a source, alone or with an alias. -/
inductive ItemOutline where
  | bare (formula : String)
  | full (formula : String) (aliasName : Option String)
  deriving DecidableEq

namespace ItemOutline

def formula : ItemOutline → String
  | bare f => f
  | full f _ => f

def aliasName : ItemOutline → Option String
  | bare _ => none
  | full _ a => a

def item (o : ItemOutline) : Item := ⟨o.formula, o.aliasName⟩

def source (o : ItemOutline) : Source := ⟨o.formula, o.aliasName⟩

end ItemOutline

/-- A predicate, alone or with the token of its connective. -/
inductive PredicateOutline where
  | bare (formula : String)
  | full (formula : String) (token : Option String)
  deriving DecidableEq

def PredicateOutline.predicate : PredicateOutline → Predicate
  | bare f => .of f none
  | full f token => .of f (token.map Connective.ofToken)

/-- A sort key; it ascends unless a direction is given. -/
structure SortOutline where
  formula : String
  aliasName : Option String
  direction : Option Direction
  deriving DecidableEq

def SortOutline.key (o : SortOutline) : SortKey :=
  ⟨⟨o.formula, o.aliasName⟩, o.direction.getD .ascending⟩

/-- A query in outline; it is DISTINCT unless the flag is given. -/
structure Outline where
  distinct : Option Bool := none
  items : List ItemOutline := []
  sources : List ItemOutline := []
  filters : List PredicateOutline := []
  groups : List ItemOutline := []
  havings : List PredicateOutline := []
  orders : List SortOutline := []
  deriving DecidableEq

/-- The query that an outline means. -/
def Outline.query (o : Outline) : Query where
  distinct := o.distinct.getD true
  items := o.items.map ItemOutline.item
  sources := o.sources.map ItemOutline.source
  filters := o.filters.map PredicateOutline.predicate
  groups := o.groups.map ItemOutline.item
  havings := o.havings.map PredicateOutline.predicate
  orders := o.orders.map SortOutline.key

/-! ### Read from a format -/

variable {ν : Type} [Format ν]

/-- A formula, and one more text under the given key that may be absent or null. -/
def formulaWith (name key : String) : RecordShape ν (String × Option String) where
  name := name
  fields := [
    .of "formula" .required Decoder.text fun s r => (s, r.2),
    .of key .defaulted (.optional .text) fun s r => (r.1, s)]
  start := ("", none)
  closed := false

def ItemOutline.decode : Decoder ν ItemOutline :=
  .shorthand (formulaWith "ItemSpec" "alias") bare fun r => full r.1 r.2

def PredicateOutline.decode : Decoder ν PredicateOutline :=
  .shorthand (formulaWith "PredicateSpec" "op") bare fun r => full r.1 r.2

def SortOutline.shape : RecordShape ν SortOutline where
  name := "OrderSpec"
  fields := [
    .of "formula" .required Decoder.text fun s o => { o with formula := s },
    .of "alias" .defaulted (.optional .text) fun s o => { o with aliasName := s },
    .of "direction" .defaulted (.optional (.choice Direction.name Direction.all))
      fun d o => { o with direction := d }]
  start := ⟨"", none, none⟩
  closed := false

def SortOutline.decode : Decoder ν SortOutline := .record shape

def Outline.shape : RecordShape ν Outline where
  name := "ModelSpec"
  fields := [
    .of "distinct" .defaulted (.optional .bool) fun b o => { o with distinct := b },
    .of "select" .defaulted (.listOf ItemOutline.decode) fun l o => { o with items := l },
    .of "from" .defaulted (.listOf ItemOutline.decode) fun l o => { o with sources := l },
    .of "where" .defaulted (.listOf PredicateOutline.decode) fun l o => { o with filters := l },
    .of "group_by" .defaulted (.listOf ItemOutline.decode) fun l o => { o with groups := l },
    .of "having" .defaulted (.listOf PredicateOutline.decode) fun l o => { o with havings := l },
    .of "order_by" .defaulted (.listOf SortOutline.decode) fun l o => { o with orders := l }]
  start := {}
  closed := false

def Outline.decode : Decoder ν Outline := .record shape

end SelectQuery
