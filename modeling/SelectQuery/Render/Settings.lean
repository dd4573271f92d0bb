import SelectQuery.Render.Error
import SelectQuery.Text.Blank

/-!
# Settings

How a statement is laid out and how strict its writer is. Settings may be built freely and are
checked before they are used; the check allows an indent of blanks only, of at most sixteen
characters.
-/

namespace SelectQuery

/-- How an alias follows a table name. -/
inductive AliasStyle where
  /-- After a space. -/
  | bare
  /-- After the word AS. -/
  | as
  deriving DecidableEq

namespace AliasStyle

def name : AliasStyle → String
  | bare => "bare"
  | as => "as"

def all : List AliasStyle := [bare, as]

def toJson (s : AliasStyle) : Json := .str s.name

def inspect : AliasStyle → Inspect
  | bare => .atom "Bare"
  | as => .atom "As"

end AliasStyle

structure Settings where
  /-- Every clause stands on a line of its own, and every predicate after the first. -/
  pretty : Bool := true
  /-- What a predicate's line starts with. -/
  indent : String := "  "
  aliasStyle : AliasStyle := .bare
  /-- Every predicate stands between parentheses. -/
  parenthesize : Bool := true
  /-- A blank formula is refused. -/
  rejectBlank : Bool := true
  deriving DecidableEq

namespace Settings

/-! ### Building -/

/-- A new value for one field. -/
inductive Change where
  | pretty (b : Bool)
  | indent (text : String)
  | aliasStyle (style : AliasStyle)
  | parenthesize (b : Bool)
  | rejectBlank (b : Bool)

/-- Settings with a new value in one field; nothing is checked. -/
def change (s : Settings) : Change → Settings
  | .pretty b => { s with pretty := b }
  | .indent text => { s with indent := text }
  | .aliasStyle style => { s with aliasStyle := style }
  | .parenthesize b => { s with parenthesize := b }
  | .rejectBlank b => { s with rejectBlank := b }

/-- The default settings after changes, made one after the other. -/
def build (changes : List Change) : Settings := changes.foldl change {}

/-- Whatever the settings, they can be built. -/
theorem exists_build_eq (s : Settings) : ∃ changes, build changes = s :=
  ⟨[.pretty s.pretty, .indent s.indent, .aliasStyle s.aliasStyle, .parenthesize s.parenthesize,
    .rejectBlank s.rejectBlank], rfl⟩

/-! ### Checking and use -/

def maxIndent : Nat := 16

/-- Refuses an indent that is not blank, and then one that is too long. -/
def validate (s : Settings) : Except RenderError Unit :=
  if !Text.isBlank s.indent then
    .error (.invalidSettings ("indent must be whitespace only, got " ++ Text.quoted s.indent))
  else if maxIndent < s.indent.length then
    .error (.invalidSettings "indent cannot exceed 16 characters")
  else .ok ()

/-- What stands between two clauses. -/
def clauseSeparator (s : Settings) : String := if s.pretty then "\n" else " "

/-- What stands before the connective of a predicate. -/
def predicateSeparator (s : Settings) : String := if s.pretty then "\n" ++ s.indent else " "

def toJson (s : Settings) : Json :=
  .obj [("pretty", .bool s.pretty), ("indent", .str s.indent), ("tableAlias", s.aliasStyle.toJson),
    ("parenthesizePredicates", .bool s.parenthesize), ("rejectEmptyFormulas", .bool s.rejectBlank)]

def inspect (s : Settings) : Inspect :=
  .record "RenderConfig" [("pretty", .bool s.pretty), ("indent", .text s.indent),
    ("table_alias", s.aliasStyle.inspect), ("parenthesize_predicates", .bool s.parenthesize),
    ("reject_empty_formulas", .bool s.rejectBlank)]

end Settings

end SelectQuery
