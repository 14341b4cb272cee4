import PromptKernel.Unicode.Category

/-! Names in listings. A listing shows a text in quotes, with quotes, backslashes, line ends and
everything that has no shape of its own escaped. -/

namespace PromptKernel.Text

def hexText (n : Nat) : List Char := Nat.toDigits 16 n

def escaped (c : Char) : List Char :=
  if c.toNat = 0 then ['\\', '0']
  else if c = '\t' then ['\\', 't']
  else if c = '\r' then ['\\', 'r']
  else if c = '\n' then ['\\', 'n']
  else if c = '"' then ['\\', '"']
  else if c = '\\' then ['\\', '\\']
  else if 32 ≤ c.toNat ∧ c.toNat < 127 then [c]
  else if Unicode.isExtender c ∨ Unicode.isPrintable c = false then
    ['\\', 'u', '{'] ++ hexText c.toNat ++ ['}']
  else [c]

def quoted (s : String) : String := String.ofList ('"' :: s.toList.flatMap escaped ++ ['"'])

end PromptKernel.Text
