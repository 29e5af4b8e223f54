import UtxoWallet.Text.Decimal

/-! # Written values

Values are written without blanks. A text keeps its characters, but for quotes, backslashes and
control characters.
-/

namespace UtxoWallet.Json.Written

/-! ## Texts -/

/-- A control character by its code point. -/
def control (c : Char) : List Char :=
  ['\\', 'u', '0', '0', Nat.digitChar (c.toNat / 16), Nat.digitChar (c.toNat % 16)]

def escaped (c : Char) : List Char :=
  if c = '"' then ['\\', '"']
  else if c = '\\' then ['\\', '\\']
  else if c = '\x08' then ['\\', 'b']
  else if c = '\t' then ['\\', 't']
  else if c = '\n' then ['\\', 'n']
  else if c = '\x0C' then ['\\', 'f']
  else if c = '\r' then ['\\', 'r']
  else if c < ' ' then control c
  else [c]

def text (s : String) : List Char := '"' :: s.toList.flatMap escaped ++ ['"']

/-! ## Lists and objects -/

def commaSeparated : List (List Char) → List Char
  | [] => []
  | [item] => item
  | item :: items => item ++ ',' :: commaSeparated items

def list (items : List (List Char)) : List Char := '[' :: commaSeparated items ++ [']']

def member (m : String × List Char) : List Char := text m.1 ++ ':' :: m.2

def object (members : List (String × List Char)) : List Char :=
  '\x7b' :: commaSeparated (members.map member) ++ ['\x7d']

end UtxoWallet.Json.Written
