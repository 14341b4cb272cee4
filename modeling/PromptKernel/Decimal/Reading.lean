/-! Doubles from decimal notation, as the nearest ones or by one operation on doubles. -/

namespace PromptKernel.Decimal

/-- The double nearest to `significand * 10 ^ exponent`. Powers far outside of the range of
doubles are cut off, since the digits could not make up for them. -/
def nearest (significand : Nat) (exponent : Int) : Float :=
  let width : Int := significand.log2
  if significand = 0 ∨ exponent + width < -1100 then 0.0
  else if 400 < exponent then Float.ofBits 0x7ff0000000000000
  else if 0 ≤ exponent then Float.ofScientific significand false exponent.toNat
  else Float.ofScientific significand true (-exponent).toNat

def powerOfTen (n : Nat) : Float := nearest 1 n

/-- Divides by a power of ten, the largest one first as long as it takes more than one. -/
def divided (x : Float) (places : Nat) : Float :=
  if places ≤ 308 then x / powerOfTen places
  else if x == 0.0 then x
  else divided (x / powerOfTen 308) (places - 308)
termination_by places

/-- The double for `significand * 10 ^ exponent` by one multiplication or division, which rounds
once more than the nearest one would. There is none if the result would be infinite. -/
def scaled? (significand : Nat) (exponent : Int) : Option Float :=
  let start := Float.ofNat significand
  if exponent < 0 then some (divided start (-exponent).toNat)
  else if 308 < exponent then if start == 0.0 then some start else none
  else
    let x := start * powerOfTen exponent.toNat
    if x.isFinite then some x else none

end PromptKernel.Decimal
