import PromptKernel.Fields
import PromptKernel.Transcript

/-! JSON values. Whole numbers and doubles are told apart, so 1 and 1.0 are different values. -/

namespace PromptKernel

inductive Number
  /-- A whole number from -2^63 to 2^64 - 1. -/
  | integer (value : Int)
  /-- A finite double. -/
  | double (value : Float)

namespace Number

protected def beq : Number → Number → Bool
  | integer a, integer b => a == b
  | double a, double b => a == b
  | _, _ => false

instance : BEq Number := ⟨Number.beq⟩

def toFloat : Number → Float
  | integer value => Float.ofInt value
  | double value => value

/-- The whole numbers that have a constructor of their own. -/
def fits (value : Int) : Bool :=
  -0x8000000000000000 ≤ value && value < 0x10000000000000000

end Number

inductive Json
  | null
  | bool (value : Bool)
  | number (value : Number)
  | string (value : String)
  | array (items : List Json)
  | object (fields : List (String × Json))

namespace Json

instance : Inhabited Json := ⟨null⟩

def integer (value : Int) : Json := number (.integer value)

def double (value : Float) : Json := number (.double value)

/-- A double as a value. JSON has no infinities and no NaN. -/
def ofFloat (value : Float) : Json := if value.isFinite then double value else null

def ofOption (f : α → Json) : Option α → Json
  | some a => f a
  | none => null

mutual

protected def beq : Json → Json → Bool
  | null, null => true
  | bool a, bool b => a == b
  | number a, number b => a == b
  | string a, string b => a == b
  | array a, array b => beqItems a b
  | object a, object b => beqFields a b
  | _, _ => false

def beqItems : List Json → List Json → Bool
  | [], [] => true
  | a :: as, b :: bs => Json.beq a b && beqItems as bs
  | _, _ => false

def beqFields : List (String × Json) → List (String × Json) → Bool
  | [], [] => true
  | (k, a) :: as, (l, b) :: bs => k == l && Json.beq a b && beqFields as bs
  | _, _ => false

end

instance : BEq Json := ⟨Json.beq⟩

def member? : Json → String → Option Json
  | object fields, key => Fields.get? fields key
  | _, _ => none

def string? : Json → Option String
  | string value => some value
  | _ => none

def bool? : Json → Option Bool
  | bool value => some value
  | _ => none

def object? : Json → Option (Fields Json)
  | object fields => some fields
  | _ => none

def array? : Json → Option (List Json)
  | array items => some items
  | _ => none

def integer? : Json → Option Int
  | number (.integer value) => some value
  | _ => none

/-- A whole number that is not negative. -/
def natural? (value : Json) : Option Nat :=
  value.integer?.bind fun n => if 0 ≤ n then some n.toNat else none

end Json

/-- A turn as stored in a variable. -/
def Turn.toJson (turn : Turn) : Json :=
  .object (Fields.ofList [("role", .string turn.role.name), ("content", .string turn.content)])

def Turn.ofJson? (value : Json) : Option Turn := do
  let role ← Role.ofName? (← (← value.member? "role").string?)
  let content ← (← value.member? "content").string?
  return ⟨role, content⟩

def Transcript.toJson (turns : List Turn) : Json := .array (turns.map Turn.toJson)

def Transcript.ofJson? (value : Json) : Option (List Turn) := do
  (← value.array?).mapM Turn.ofJson?

end PromptKernel
