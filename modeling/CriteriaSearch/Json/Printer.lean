import CriteriaSearch.Json.Basic
import CriteriaSearch.Binary64.Decimal
import CriteriaSearch.Text.Hexadecimal

/-!
# Compact JSON text

The text of a value without any blank between its parts.  Control characters are escaped, the five
with a short form by it and the others by their code in lower-case hexadecimal; all else, the slash
and every character beyond ASCII included, stands for itself.
-/

namespace CriteriaSearch

/-- The text of a number: an integer in decimal, any other number in its shortest form. -/
def JsonNumber.text : JsonNumber → String
  | int n => toString n
  | float x => x.text

namespace Json

/-- A character as it stands inside a quoted text. -/
def escapeChar (c : Char) : List Char :=
  if c = '"' then ['\\', '"']
  else if c = '\\' then ['\\', '\\']
  else if c.toNat = 8 then ['\\', 'b']
  else if c = '\t' then ['\\', 't']
  else if c = '\n' then ['\\', 'n']
  else if c.toNat = 12 then ['\\', 'f']
  else if c = '\r' then ['\\', 'r']
  else if c.toNat < 32 then
    ['\\', 'u', '0', '0', Text.hexDigit (c.toNat / 16), Text.hexDigit (c.toNat % 16)]
  else [c]

/-- A text in quotes. -/
def quoted (s : String) : String :=
  "\"" ++ String.ofList (s.toList.flatMap escapeChar) ++ "\""

mutual

/-- The compact text of a value. -/
def text : Json → String
  | null => "null"
  | bool true => "true"
  | bool false => "false"
  | num n => n.text
  | str s => quoted s
  | arr items => "[" ++ textItems items ++ "]"
  | obj entries => "\x7b" ++ textEntries entries ++ "\x7d"

/-- The texts of items, separated by commas. -/
def textItems : List Json → String
  | [] => ""
  | [v] => text v
  | v :: rest => text v ++ "," ++ textItems rest

/-- The texts of entries, separated by commas. -/
def textEntries : List (String × Json) → String
  | [] => ""
  | [(k, v)] => quoted k ++ ":" ++ text v
  | (k, v) :: rest => quoted k ++ ":" ++ text v ++ "," ++ textEntries rest

end

end Json

end CriteriaSearch
