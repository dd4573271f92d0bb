import SelectQuery.Text.Hidden

/-!
# Quoted texts

A text between double quotes in which the quote, the backslash and every hidden character are
written as escapes, so that the whole stays on one line and can be told from any other text.
-/

namespace SelectQuery.Text

/-- A character inside quotes: a short escape where there is one, the code point in hexadecimal
where the character is hidden, itself otherwise. -/
def quotedChar (c : Char) : List Char :=
  if c = '\x00' then ['\\', '0']
  else if c = '\t' then ['\\', 't']
  else if c = '\r' then ['\\', 'r']
  else if c = '\n' then ['\\', 'n']
  else if c = '"' then ['\\', '"']
  else if c = '\\' then ['\\', '\\']
  else if isHidden c then ['\\', 'u', '{'] ++ Nat.toDigits 16 c.toNat ++ ['}']
  else [c]

def quoted (s : String) : String := String.ofList ('"' :: (s.toList.flatMap quotedChar ++ ['"']))

end SelectQuery.Text
