/-! The shortest decimal that reads back as a given double. A double is a whole mantissa times a
power of two, and the reals that round to it form an interval around it, whose ends belong to it
when the mantissa is even. On decimal grids from coarse to fine, the first grid with a point in
the interval wins. -/

namespace PromptKernel

/-- The number `mantissa * 2 ^ exponent`. -/
structure Dyadic where
  mantissa : Nat
  exponent : Int
deriving DecidableEq, Repr

/-- The number `digits * 10 ^ exponent`. -/
structure Decimal where
  digits : Nat
  exponent : Int
deriving DecidableEq, Repr

namespace Dyadic

/-- The highest bit of a mantissa in full. -/
def leading : Nat := 0x10000000000000

/-- The absolute value of the finite double with these bits. -/
def ofBits (bits : UInt64) : Dyadic :=
  let word := bits.toNat
  let field : Nat := word / leading % 2048
  let fraction := word % leading
  if field = 0 then ⟨fraction, -1074⟩ else ⟨fraction + leading, field - 1075⟩

/-- The reals that round to a double, as fractions over one denominator. -/
structure Neighbourhood where
  low : Nat
  value : Nat
  high : Nat
  denominator : Nat
  closed : Bool

/-- Half the gap to each neighbour. Below a power of two the gap is half as wide, save at the
bottom of the exponent range. -/
def neighbourhood (x : Dyadic) : Neighbourhood :=
  let unit := 1 <<< (x.exponent - 2).toNat
  let below := if x.mantissa = leading ∧ x.exponent ≠ -1074 then unit else 2 * unit
  let value := 4 * x.mantissa * unit
  ⟨value - below, value, value + 2 * unit, 1 <<< (2 - x.exponent).toNat, x.mantissa % 2 == 0⟩

namespace Neighbourhood

/-- The same reals counted in steps of `10 ^ exponent`. -/
def scaled (n : Neighbourhood) (exponent : Int) : Neighbourhood :=
  let up := Nat.pow 10 (-exponent).toNat
  { n with
    low := n.low * up, value := n.value * up, high := n.high * up,
    denominator := n.denominator * Nat.pow 10 exponent.toNat }

def contains (n : Neighbourhood) (point : Nat) : Bool :=
  let p := point * n.denominator
  if n.closed then n.low ≤ p && p ≤ n.high else n.low < p && p < n.high

/-- The whole number in the neighbourhood that is nearest to the value. Of two equally near ones
the even one is taken. -/
def nearest? (n : Neighbourhood) : Option Nat :=
  let floor := n.value / n.denominator
  let fromFloor := n.value - floor * n.denominator
  let toCeiling := (floor + 1) * n.denominator - n.value
  match floor != 0 && n.contains floor, n.contains (floor + 1) with
  | true, true =>
    if fromFloor < toCeiling ∨ (fromFloor = toCeiling ∧ floor % 2 = 0) then some floor
    else some (floor + 1)
  | true, false => some floor
  | false, true => some (floor + 1)
  | false, false => none

end Neighbourhood

/-- The exponent of a grid whose step is certainly larger than the number. -/
def coarsest (x : Dyadic) : Int :=
  Int.fdiv ((x.mantissa.log2 + x.exponent + 1) * 30103) 100000 + 1

def exact (x : Dyadic) : Decimal :=
  ⟨x.mantissa <<< x.exponent.toNat * Nat.pow 5 (-x.exponent).toNat, min x.exponent 0⟩

/-- The nearest of the shortest decimals that read back. Twenty grids reach past the seventeenth
digit, where a hit is certain. -/
def shortest (x : Dyadic) : Decimal :=
  if x.mantissa = 0 then ⟨0, 0⟩
  else
    let around := x.neighbourhood
    let grids := (List.range 20).map fun (i : Nat) => x.coarsest - i
    let hit := grids.findSome? fun e => ((around.scaled e).nearest?).map (Decimal.mk · e)
    hit.getD x.exact

end Dyadic

def Decimal.stripped (d : Decimal) : Decimal :=
  go d.digits d.exponent (d.digits.log2 + 1)
where
  go (digits : Nat) (exponent : Int) : Nat → Decimal
    | 0 => ⟨digits, exponent⟩
    | fuel + 1 =>
      if digits ≠ 0 ∧ digits % 10 = 0 then go (digits / 10) (exponent + 1) fuel
      else ⟨digits, exponent⟩

end PromptKernel
