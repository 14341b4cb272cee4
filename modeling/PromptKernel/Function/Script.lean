import PromptKernel.Function.Program

/-! Scripts, a small language for native functions. A script is one action or a sequence of
actions, and its value is that of the last one. -/

namespace PromptKernel

inductive Reading
  | signed
  | unsigned
  | double
  | bool
  | string
  | signedList
deriving DecidableEq, Repr

namespace Reading

def signed? (value : Json) : Option Int :=
  value.integer?.bind fun n =>
    if -0x8000000000000000 ≤ n ∧ n < 0x8000000000000000 then some n else none

/-- The value if it is of the kind, as that kind has it. -/
def read? : Reading → Json → Option Json
  | signed, value => (signed? value).map .integer
  | unsigned, value => value.natural?.map fun n => .integer n
  | double, .number n => some (.double n.toFloat)
  | double, _ => none
  | bool, value => value.bool?.map .bool
  | string, value => value.string?.map .string
  | signedList, value => do
    let items ← (← value.array?).mapM signed?
    return .array (items.map .integer)

end Reading

inductive Script
  | const (value : Json)
  | arguments
  | argument (name : String)
  | parse (name : String) (reading : Reading)
  | sum
  | add (name : String) (amount : Int)
  | fail (message : String)
  | set (name : String) (value : Json)
  | remove (name : String)
  | get (name : String)
  | bindings
  | functions
  | services
  | cancel
  | check
  | invoke (function : FunctionRef) (fork : Bool)
  | render (template : String)
  | sequence (steps : List Script)

namespace Script

def argument? (arguments : Fields Json) (name : String) : Except Error Json :=
  match arguments.get? name with
  | some value => .ok value
  | none => .error (.native (.unbound name))

def parseWith (read? : Json → Option α) (arguments : Fields Json) (name : String) :
    Except Error α := do
  match read? (← argument? arguments name) with
  | some value => .ok value
  | none => .error (.native (.invalid name))

/-- The whole number of 64 bits that is left of a larger one. -/
def wrapped (n : Int) : Int := n.bmod 0x10000000000000000

def servicesValue (names : ServiceNames) : Json :=
  .object (Fields.ofList [
    ("services", .array (names.all.map .string)),
    ("default", Json.ofOption .string names.default?)])

def functionsValue (functions : List FunctionRef) : Json :=
  .array (functions.map fun ref => .string ref.qualifiedName)

mutual

def program (arguments : Fields Json) : Script → Program Json
  | const value => .done value
  | .arguments => .done (.object arguments)
  | argument name => .done ((arguments.get? name).getD .null)
  | parse name reading => .ofExcept (parseWith reading.read? arguments name)
  | sum => do
    let a ← .ofExcept (parseWith Reading.signed? arguments "a")
    let b ← .ofExcept (parseWith Reading.signed? arguments "b")
    if wrapped (a + b) = a + b then return .integer (a + b)
    else Program.fail (.native (.reported "overflow"))
  | add name amount => do
    let n ← .ofExcept (parseWith Reading.signed? arguments name)
    let value := Json.integer (wrapped (n + amount))
    let _ ← Program.request (.set name value)
    return value
  | fail message => Program.fail (.native (.reported message))
  | set name value => .ask (.set name value) fun previous => .done (previous.getD .null)
  | remove name => .ask (.remove name) fun removed => .done (removed.getD .null)
  | get name => .ask (.get name) fun found => .done (found.getD .null)
  | bindings => .ask .bindings fun all => .done (.object all)
  | functions => .ask .functions fun refs => .done (functionsValue refs)
  | services => .ask .services fun names => .done (servicesValue names)
  | cancel => .ask .cancel fun _ => .done .null
  | check => .ask .isCancelled fun (cancelled : Bool) =>
    if cancelled then .fail .cancelled else .done (.bool true)
  | invoke function fork => .ask (.invoke function fork) fun outcome =>
    .ofExcept (outcome.map Result.value)
  | render template => .ask (.render template) fun outcome => .ofExcept (outcome.map .string)
  | sequence steps => programs arguments .null steps

/-- The actions in order, where `last` is the value so far. -/
def programs (arguments : Fields Json) (last : Json) : List Script → Program Json
  | [] => .done last
  | step :: steps => do programs arguments (← program arguments step) steps

end

def handler (script : Script) : Handler := fun arguments => script.program arguments

end Script

end PromptKernel
