import SelectQuery.Decode.Error
import SelectQuery.Number.Width
import SelectQuery.Text.Digits

/-!
# The meaning of plain scalars

Which plain texts are null, booleans and numbers; all others are texts. Integers may be hexadecimal,
octal or binary. A run of digits that starts with a needless zero is a text.
-/

namespace SelectQuery.Yaml

def nullTexts : List String := ["", "null", "Null", "NULL", "~"]
def trueTexts : List String := ["true", "True", "TRUE"]
def falseTexts : List String := ["false", "False", "FALSE"]

/-- What a plain scalar is; integers beyond 64 bits are not allowed, as long as 128 bits hold
them. -/
inductive Meaning where
  | atom (a : Atom)
  | tooLarge

/-! ### Integers -/

/-- Digits after a sign with a needless zero in front. -/
def hasNeedlessZero (cs : List Char) : Bool :=
  let cs := match cs with
    | '+' :: cs => cs
    | '-' :: cs => cs
    | cs => cs
  match cs with
  | '0' :: rest => !rest.isEmpty && rest.all Char.isDigit
  | _ => false

/-- The magnitude of an integer after its sign. -/
def magnitude? : List Char → Option Nat
  | '0' :: 'x' :: cs => Text.digitsValue? 16 cs
  | '0' :: 'o' :: cs => Text.digitsValue? 8 cs
  | '0' :: 'b' :: cs => Text.digitsValue? 2 cs
  | cs => Text.digitsValue? 10 cs

def int? (cs : List Char) : Option Int :=
  if hasNeedlessZero cs then none
  else
    match cs with
    | '-' :: cs => (magnitude? cs).map fun n => -n
    | '+' :: cs => (magnitude? cs).map fun n => n
    | cs => (magnitude? cs).map fun n => n

/-! ### Reals -/

/-- The finite real after a sign: digits with at most one point among or around them, and perhaps an
exponent. -/
def finite? (negative : Bool) (cs : List Char) : Option Binary64 := do
  let (whole, rest) := cs.span Char.isDigit
  let (fraction, rest) := match rest with
    | '.' :: rest => rest.span Char.isDigit
    | rest => ([], rest)
  let exponent ← match rest with
    | [] => some (0 : Int)
    | e :: rest =>
      if e = 'e' ∨ e = 'E' then
        match rest with
        | '-' :: ds => (Text.digitsValue? 10 ds).map fun n => -n
        | '+' :: ds => (Text.digitsValue? 10 ds).map fun n => n
        | ds => (Text.digitsValue? 10 ds).map fun n => n
      else none
  if whole.isEmpty && fraction.isEmpty then none
  else
    Binary64.ofDecimal negative (Nat.ofDigitChars 10 (whole ++ fraction) 0)
      (exponent - fraction.length)

def infinityTexts : List String := [".inf", ".Inf", ".INF"]
def notANumberTexts : List String := [".nan", ".NaN", ".NAN"]

def real? (text : String) : Option Atom :=
  if text ∈ infinityTexts || text ∈ infinityTexts.map ("+" ++ ·) then some (.infinite false)
  else if text ∈ infinityTexts.map ("-" ++ ·) then some (.infinite true)
  else if text ∈ notANumberTexts then some .notANumber
  else
    match text.toList with
    | '-' :: cs => (finite? true cs).map .real
    | '+' :: cs => (finite? false cs).map .real
    | cs => (finite? false cs).map .real

/-! ### All together -/

def meaning (text : String) : Meaning :=
  if text ∈ nullTexts then .atom .null
  else if text ∈ trueTexts then .atom (.bool true)
  else if text ∈ falseTexts then .atom (.bool false)
  else
    match int? text.toList with
    | some n =>
      if fitsBits 64 n then .atom (.int n)
      else if fitsBits 128 n then .tooLarge
      else .atom ((real? text).getD (.text text))
    | none =>
      if hasNeedlessZero text.toList then .atom (.text text)
      else .atom ((real? text).getD (.text text))

end SelectQuery.Yaml
