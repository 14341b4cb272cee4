import PromptKernel.Decimal.Shortest

/-! How the digits of a double are laid out as text. A layout is one record of choices, so that
the digits themselves and the way they are written stay apart. -/

namespace PromptKernel

structure Layout where
  /-- Numbers from this power of ten on are written with plain places. -/
  plainFrom : Int
  /-- Numbers from this power of ten on are written with an exponent again. -/
  plainBelow : Int
  /-- What stands in front of an exponent that is not negative. -/
  positiveSign : String
deriving DecidableEq, Repr

namespace Layout

def zeros (n : Nat) : String := String.ofList (List.replicate n '0')

/-- All digits in their places. A whole number keeps one zero after the point. -/
def plain (digits : String) (exponent : Int) : String :=
  let count := digits.length
  if 0 ≤ exponent then digits ++ zeros exponent.toNat ++ ".0"
  else
    let places := (-exponent).toNat
    if places < count then
      String.ofList (digits.toList.take (count - places)) ++ "." ++
        String.ofList (digits.toList.drop (count - places))
    else "0." ++ zeros (places - count) ++ digits

/-- One digit before the point, and the power of ten at the end. -/
def scientific (layout : Layout) (digits : String) (exponent : Int) : String :=
  let power := exponent + digits.length - 1
  let fraction := String.ofList (digits.toList.drop 1)
  String.ofList (digits.toList.take 1) ++ (if fraction.isEmpty then "" else "." ++ fraction) ++
    "e" ++ (if 0 ≤ power then layout.positiveSign else "") ++ toString power

def decimal (layout : Layout) (d : Decimal) : String :=
  if d.digits = 0 then "0.0"
  else
    let d := d.stripped
    let digits := toString d.digits
    let power := d.exponent + digits.length - 1
    if layout.plainFrom ≤ power ∧ power < layout.plainBelow then plain digits d.exponent
    else layout.scientific digits d.exponent

/-- The text of a finite double. The sign of zero is kept. -/
def double (layout : Layout) (x : Float) : String :=
  let bits := x.toBits
  (if bits >>> 63 = 1 then "-" else "") ++ layout.decimal (Dyadic.ofBits bits).shortest

end Layout

end PromptKernel
