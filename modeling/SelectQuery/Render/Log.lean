import SelectQuery.Render.Error

/-!
# The log of a rendering

What is noted while a statement is written, and computations that may be refused and keep what they
noted either way.
-/

namespace SelectQuery

inductive LogLevel where
  | trace
  | debug
  | warn
  deriving DecidableEq

inductive LogRecord where
  /-- The rendering as a whole, by the name of its dialect. -/
  | span (dialect : String)
  | started (distinct : Bool) (items sources : Nat)
  | withoutSources
  /-- The first predicate of a clause has nothing before it to be joined to. -/
  | connectiveIgnored (clause : Clause) (connective : Connective)
  deriving DecidableEq

namespace LogRecord

def level : LogRecord → LogLevel
  | span _ => .debug
  | started .. => .debug
  | withoutSources => .warn
  | connectiveIgnored .. => .trace

/-- The name of a span. -/
def name? : LogRecord → Option String
  | span _ => some "render"
  | _ => none

/-- The sentence of a record; a span has a name instead. -/
def message? : LogRecord → Option String
  | span _ => none
  | started .. => some "rendering select statement"
  | withoutSources => some "model has no tables, rendering SELECT without FROM"
  | connectiveIgnored .. => some "leading predicate operator ignored"

/-- The values noted with a record. -/
def fields : LogRecord → List (String × Json)
  | span dialect => [("renderer", .str dialect)]
  | started distinct items sources =>
    [("distinct", .bool distinct), ("selections", .ofNat items), ("tables", .ofNat sources)]
  | withoutSources => []
  | connectiveIgnored clause connective =>
    [("clause", .str clause.keyword), ("operator", .str connective.token)]

end LogRecord

/-- A computation that may be refused, and what it noted up to its end. -/
structure Logged (α : Type) where
  log : List LogRecord
  result : Except RenderError α

namespace Logged

instance : Monad Logged where
  pure a := ⟨[], .ok a⟩
  bind x f :=
    match x.result with
    | .ok a => ⟨x.log ++ (f a).log, (f a).result⟩
    | .error e => ⟨x.log, .error e⟩

/-- Notes one record. -/
def note (r : LogRecord) : Logged Unit := ⟨[r], .ok ()⟩

/-- Notes a record if a condition holds. -/
def noteIf (b : Bool) (r : LogRecord) : Logged Unit := ⟨if b then [r] else [], .ok ()⟩

/-- A computation that notes nothing. -/
def ofExcept {α : Type} (x : Except RenderError α) : Logged α := ⟨[], x⟩

/-! ### What each step does to the result and to the log -/

@[simp] theorem result_pure {α : Type} (a : α) : (pure a : Logged α).result = .ok a := rfl

@[simp] theorem log_pure {α : Type} (a : α) : (pure a : Logged α).log = [] := rfl

@[simp] theorem result_note (r : LogRecord) : (note r).result = .ok () := rfl

@[simp] theorem log_note (r : LogRecord) : (note r).log = [r] := rfl

@[simp] theorem result_noteIf (b : Bool) (r : LogRecord) : (noteIf b r).result = .ok () := rfl

@[simp] theorem log_noteIf (b : Bool) (r : LogRecord) : (noteIf b r).log =
    if b then [r] else [] := rfl

@[simp] theorem result_ofExcept {α : Type} (x : Except RenderError α) : (ofExcept x).result = x :=
  rfl

@[simp] theorem log_ofExcept {α : Type} (x : Except RenderError α) : (ofExcept x).log = [] := rfl

@[simp] theorem result_bind {α β : Type} (x : Logged α) (f : α → Logged β) :
    (x >>= f).result = x.result >>= fun a => (f a).result := by
  obtain ⟨log, result⟩ := x
  cases result <;> rfl

theorem log_bind_ok {α β : Type} {x : Logged α} {a : α} (h : x.result = .ok a) (f : α → Logged β) :
    (x >>= f).log = x.log ++ (f a).log := by
  obtain ⟨log, result⟩ := x
  cases h
  rfl

theorem log_bind_error {α β : Type} {x : Logged α} {e : RenderError} (h : x.result = .error e)
    (f : α → Logged β) : (x >>= f).log = x.log := by
  obtain ⟨log, result⟩ := x
  cases h
  rfl

end Logged

end SelectQuery
