import PromptKernel.Decimal.Reading

/-! Reading decimal notation that allows a sign, digits on either side of a point, and an
exponent. -/

namespace PromptKernel.Decimal

def digitsValue (digits : List Char) : Nat := digits.foldl (fun n c => n * 10 + (c.toNat - 48)) 0

/-- Appends digits to a number as long as it stays below 2^64, and gives the digits left over. -/
def joinDigits (n : Nat) : List Char → Nat × List Char
  | [] => (n, [])
  | c :: cs =>
    let next := n * 10 + (c.toNat - 48)
    if next < 0x10000000000000000 then joinDigits next cs else (n, c :: cs)

def splitSign : List Char → Bool × List Char
  | '-' :: rest => (true, rest)
  | '+' :: rest => (false, rest)
  | rest => (false, rest)

/-- The exponent after its mark: a sign and at least one digit, up to the end. -/
def exponent? (text : List Char) : Option Int :=
  let (negative, digits) := splitSign text
  if digits.isEmpty ∨ !digits.all Char.isDigit then none
  else if negative then some (-digitsValue digits) else some (digitsValue digits)

/-- The double nearest to a number without its sign. -/
def magnitude? (text : List Char) : Option Float := do
  let whole := text.takeWhile Char.isDigit
  let rest := text.dropWhile Char.isDigit
  let (fraction, rest) :=
    match rest with
    | '.' :: rest => (rest.takeWhile Char.isDigit, rest.dropWhile Char.isDigit)
    | rest => ([], rest)
  if whole.isEmpty ∧ fraction.isEmpty then none
  else
    let power ←
      match rest with
      | [] => some 0
      | 'e' :: rest | 'E' :: rest => exponent? rest
      | _ => none
    return nearest (digitsValue (whole ++ fraction)) (power - fraction.length)

/-- The nearest double, which may be infinite. -/
def float? (text : List Char) : Option Float :=
  let (negative, rest) := splitSign text
  (magnitude? rest).map fun x => if negative then -x else x

end PromptKernel.Decimal
