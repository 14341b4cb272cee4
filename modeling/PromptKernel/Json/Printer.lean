import PromptKernel.Json.Basic
import PromptKernel.Decimal.Layout

/-! The compact text of JSON values. -/

namespace PromptKernel

/-- Plain places from 10^-5 up to 10^16, a signed power of ten beyond. -/
def Number.layout : Layout := ⟨-5, 16, "+"⟩

def Number.text : Number → String
  | integer value => toString value
  | double value => layout.double value

namespace Json

def hexDigit (n : Nat) : Char := if n < 10 then Char.ofNat (48 + n) else Char.ofNat (87 + n)

/-- A character inside a quoted string. Quotes, backslashes and control characters are escaped. -/
def escaped (c : Char) : List Char :=
  if c = '"' then ['\\', '"']
  else if c = '\\' then ['\\', '\\']
  else if c.toNat = 8 then ['\\', 'b']
  else if c.toNat = 12 then ['\\', 'f']
  else if c = '\n' then ['\\', 'n']
  else if c = '\r' then ['\\', 'r']
  else if c = '\t' then ['\\', 't']
  else if c.toNat < 32 then
    ['\\', 'u', '0', '0', hexDigit (c.toNat / 16), hexDigit (c.toNat % 16)]
  else [c]

def quoted (s : String) : String := String.ofList ('"' :: s.toList.flatMap escaped ++ ['"'])

mutual

def compact : Json → String
  | null => "null"
  | bool value => if value then "true" else "false"
  | number value => value.text
  | string value => quoted value
  | array items => "[" ++ compactItems items ++ "]"
  | object fields => "\x7b" ++ compactFields fields ++ "\x7d"

def compactItems : List Json → String
  | [] => ""
  | [item] => compact item
  | item :: items => compact item ++ "," ++ compactItems items

def compactFields : List (String × Json) → String
  | [] => ""
  | [(key, value)] => quoted key ++ ":" ++ compact value
  | (key, value) :: fields => quoted key ++ ":" ++ compact value ++ "," ++ compactFields fields

end

/-- How a value appears in running text: strings as they are, null as nothing, all else as compact
JSON. -/
def inline : Json → String
  | string value => value
  | null => ""
  | value => value.compact

end Json

end PromptKernel
