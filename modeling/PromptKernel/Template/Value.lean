import PromptKernel.Json.Parser
import PromptKernel.Json.Printer

/-! Values in templates: how they are shown, which ones count as true, and how they compare. -/

namespace PromptKernel.Template

mutual

def shown : Json → String
  | .null => ""
  | .bool value => if value then "true" else "false"
  | .number value => value.text
  | .string value => value
  | .array items => "[" ++ ", ".intercalate (shownItems items) ++ "]"
  | .object _ => "[object]"

def shownItems : List Json → List String
  | [] => []
  | item :: items => shown item :: shownItems items

end

/-- Whether a value counts as true. Zero does if `includeZero` says so, and numbers too small for
the full precision of doubles count like zero. -/
def isTrue (includeZero : Bool) : Json → Bool
  | .null => false
  | .bool value => value
  | .number value => includeZero || isNormal value.toFloat
  | .string value => !value.isEmpty
  | .array items => !items.isEmpty
  | .object fields => !fields.isEmpty
where
  isNormal (x : Float) : Bool :=
    let exponent := (x.toBits >>> 52) &&& 0x7ff
    exponent != 0 && exponent != 0x7ff

def compareDoubles? (a b : Float) : Option Ordering :=
  if a < b then some .lt
  else if b < a then some .gt
  else if a == b then some .eq
  else none

/-- Compares a whole number with a double, without rounding the former. -/
def compareWith (n : Int) (x : Float) : Ordering :=
  if 18446744073709551616.0 ≤ x then .lt
  else if x < -9223372036854775808.0 then .gt
  else
    let below := x.floor
    let whole : Int :=
      if below < 0.0 then -(Int.ofNat (-below).toUInt64.toNat) else Int.ofNat below.toUInt64.toNat
    if n < whole then .lt
    else if whole < n then .gt
    else if below < x then .lt
    else .eq

def compareNumbers? : Number → Number → Option Ordering
  | .integer a, .integer b => some (compare a b)
  | .integer a, .double b => some (compareWith a b)
  | .double a, .integer b => some (compareWith b a).swap
  | .double a, .double b => compareDoubles? a b

/-- The number in a text, if there is nothing else in it. -/
def numeric? (text : String) : Option Number :=
  match Json.readNumber? text.toList with
  | some (.number value, []) => some value
  | _ => none

/-- The order of two values, if there is one between them. A number and a text compare if the text
holds a number. -/
def compare? : Json → Json → Option Ordering
  | .number a, .number b => compareNumbers? a b
  | .string a, .string b => some (compare a b)
  | .bool a, .bool b => some (compare a b)
  | .number a, .string b => (numeric? b).bind (compareNumbers? a)
  | .string a, .number b => (numeric? a).bind fun a => compareNumbers? a b
  | _, _ => none

end PromptKernel.Template
