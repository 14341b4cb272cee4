import PromptKernel.Function.Basic
import PromptKernel.Function.Binding
import PromptKernel.Run
import PromptKernel.Template.Margin
import PromptKernel.Template.Scope
import PromptKernel.Template.Value
import PromptKernel.Text.Blank

/-! Helpers, which templates call by name: those of every template and one for each function. A
helper either gives a value or writes text; one that only writes gives its text as a value. -/

namespace PromptKernel.Template

structure Partials where
  named : Fields (List Element) := []
  /-- The body of the innermost inclusion that has one, which is rendered before the template. -/
  body : Option String := none

/-- What a rendering changes besides the state of its run. -/
structure Progress where
  /-- The context that took the place of the first one, once a helper changed variables. -/
  renewed : Option Json := none
  partials : Partials := {}
  margin : Margin := {}

abbrev Render := StateT Progress Run

structure Host where
  functions : List Function
  invoke : Function → Run Result

namespace Render

def fail (error : Error) : Render α := throw error

/-- A step of the run around the rendering. -/
def ofRun (run : Run α) : Render α := StateT.lift run

/-- Lets everything after it see the variables as they are now. -/
def renew : Render Unit := do
  let bindings ← ofRun Run.bindings
  modify ({ · with renewed := some (.object bindings) })

def emit (text : String) : Render String := do
  let (written, margin) := (← get).margin.write text.toList
  modify ({ · with margin })
  return String.ofList written

/-- Renders a part of a template on a margin of its own. -/
def part (enter : Margin → Margin) (render : Render α) : Render α := do
  let before := (← get).margin
  modify ({ · with margin := enter before })
  let result ← render
  modify fun progress => { progress with margin := before.leave progress.margin }
  return result

/-- Forgets the partial templates that become known inside. -/
def locally (render : Render α) : Render α := do
  let partials := (← get).partials
  let result ← render
  modify ({ · with partials })
  return result

end Render

/-- A call of a helper with its arguments evaluated. -/
structure Call where
  name : String
  params : List Found
  hash : Fields Found
  /-- What the body calls its item and its key. -/
  names : List String := []
  blocks : List Block
  body : Option (List Block → Render String) := none
  inverse : Option (List Block → Render String) := none

namespace Call

def isBlock (call : Call) : Bool := call.body.isSome

/-- An argument that is given by its name or else by its position. -/
def argument? (call : Call) (position : Nat) (key : String) : Option Json :=
  (call.hash.get? key <|> call.params[position]?).map Found.json

def param? (call : Call) (position : Nat) : Option Json := call.params[position]?.map Found.json

def param (call : Call) (position : Nat) : Render Found :=
  match call.params[position]? with
  | some param => pure param
  | none => Render.fail (.template (.missingArgument call.name))

/-- The part of the block in these blocks, if there is one. -/
def part (part : Option (List Block → Render String)) (blocks : List Block) : Render String :=
  match part with
  | some part => part blocks
  | none => pure ""

def writeBody (call : Call) : Render String := part call.body call.blocks

def writeInverse (call : Call) : Render String := part call.inverse call.blocks

def invalid (call : Call) (reason : String) : Error := .invalidHelperArguments call.name reason

end Call

inductive Relation
  | differs
  | less
  | lessOrEqual
  | greater
  | greaterOrEqual
deriving DecidableEq, Repr

def Relation.holds (relation : Relation) (a b : Json) : Bool :=
  match relation, compare? a b with
  | differs, _ => !(a == b)
  | less, some order => order == .lt
  | lessOrEqual, some order => order != .gt
  | greater, some order => order == .gt
  | greaterOrEqual, some order => order != .lt
  | _, none => false

inductive Helper
  | message
  | set
  | get
  | json
  | equal
  | raw
  /-- Stands in for names without a meaning. -/
  | missing
  /-- Writes its body if its argument is true, or if it is not. -/
  | condition (positive : Bool)
  | each
  | within
  | lookup
  | length
  | log
  | relation (relation : Relation)
  | conjunction
  | disjunction
  | negation
  | function (function : Function)

namespace Helper

def builtin? : String → Option Helper
  | "message" => some message
  | "set" => some set
  | "get" => some get
  | "json" => some json
  | "eq" => some equal
  | "raw" => some raw
  | "helperMissing" => some missing
  | "if" => some (condition true)
  | "unless" => some (condition false)
  | "each" => some each
  | "with" => some within
  | "lookup" => some lookup
  | "len" => some length
  | "log" => some log
  | "ne" => some (relation .differs)
  | "lt" => some (relation .less)
  | "lte" => some (relation .lessOrEqual)
  | "gt" => some (relation .greater)
  | "gte" => some (relation .greaterOrEqual)
  | "and" => some conjunction
  | "or" => some disjunction
  | "not" => some negation
  | _ => none

/-- The helper with a name. Of several functions with the name the last one counts, and a function
comes before a helper of every template. -/
def ofName? (functions : List Function) (name : String) : Option Helper :=
  match functions.reverse.find? fun function => function.helperName == name with
  | some f => some (function f)
  | none => builtin? name

/-! Messages and variables. -/

/-- A message with its role around its body. The name alone is the variable of that name. -/
def writeMessage (call : Call) : Render String := do
  if !call.isBlock && call.params.isEmpty && call.hash.isEmpty then
    return ((← Render.ofRun (Run.lookup "message")).map Json.inline).getD ""
  else
    match call.argument? 0 "role" with
    | some (.string role) =>
      if Text.isBlankText role then Render.fail .missingRole
      else
        let role := Text.trimmed role
        return "<" ++ role ++ "~>" ++ (← call.writeBody) ++ "</" ++ role ++ "~>"
    | _ => Render.fail .missingRole

def variableName (call : Call) : Render String :=
  match call.argument? 0 "name" with
  | some (.string name) =>
    if name.isEmpty then Render.fail (call.invalid "a variable name is required") else pure name
  | _ => Render.fail (call.invalid "a variable name is required")

def assign (call : Call) : Render String := do
  let name ← variableName call
  Render.ofRun (Run.insert name ((call.argument? 1 "value").getD .null))
  Render.renew
  return ""

def variableValue (call : Call) : Render Json := do
  let name ← variableName call
  return (← Render.ofRun (Run.lookup name)).getD .null

def areEqual (call : Call) : Render Bool :=
  match call.params with
  | a :: b :: _ => pure (a.json == b.json)
  | _ => Render.fail (call.invalid "two operands are required")

/-! Functions. -/

/-- The arguments for a function: those by name, and before them the members of one map. -/
def functionArguments (call : Call) : Except Error (Fields Json) :=
  let named := call.hash.mapValues Found.json
  match call.params.map Found.json with
  | [] => .ok named
  | [.object fields] => .ok (Fields.merge fields named)
  | [.null] => .ok named
  | [_] => .error (call.invalid "the positional argument must be a map")
  | _ => .error (call.invalid "at most one positional argument is allowed")

/-- Binds the arguments and calls the function, unless the run is cancelled. -/
def dispatch (host : Host) (function : Function) (arguments : Fields Json) : Run Result := do
  Run.setBindings (← Run.ofExcept (function.definition.bind (some arguments) (← Run.bindings)))
  Run.checkCancelled
  host.invoke function

def callFunction (host : Host) (function : Function) (call : Call) : Render Result := do
  let result ← Render.ofRun do dispatch host function (← Run.ofExcept (functionArguments call))
  Render.renew
  return result

/-- Whether a name could be that of a function in the group of some function. -/
def isInGroup (functions : List Function) (name : String) : Bool :=
  functions.any fun function =>
    match Text.dropPrefix? function.definition.group.toList name.toList with
    | some ('_' :: _ :: _) => true
    | _ => false

/-- A name alone without a meaning is nothing, unless it could only be a function. With arguments
it would have to be a helper. -/
def writeMissing (host : Host) (call : Call) : Render String :=
  if call.params.isEmpty && call.hash.isEmpty && !isInGroup host.functions call.name then pure ""
  else Render.fail (.unknownHelper call.name)

/-! Blocks. -/

def writeCondition (positive : Bool) (call : Call) : Render String := do
  let value ← call.param 0
  let includeZero := ((call.hash.get? "includeZero").bind fun found => found.json.bool?).getD false
  if isTrue includeZero value.json == positive then call.writeBody else call.writeInverse

/-- The block for a value: the place of the value, or the value itself. -/
def blockOf : Found → Block
  | .place path _ => { base := .place path }
  | found => { base := .value found.json }

def writeWithin (call : Call) : Render String := do
  let value ← call.param 0
  if isTrue false value.json then
    let block := blockOf value
    let names :=
      match call.names, value with
      | [name], .place _ _ => [(name, Named.item)]
      | [name], found => [(name, .value found.json)]
      | _, _ => []
    Render.locally (Call.part call.body ({ block with names } :: call.blocks))
  else call.writeInverse

structure Item where
  segment : String
  key : Json
  value : Json

def items? : Json → Option (List Item)
  | .array items =>
    some (items.zipIdx.map fun (value, i) => ⟨toString i, .integer (Int.ofNat i), value⟩)
  | .object fields => some (fields.map fun (key, value) => ⟨key, .string key, value⟩)
  | _ => none

/-- The block for an item. Of two equal names the later one counts. -/
def itemBlock (collection : Found) (names : List String) (item : Item) (position : Nat)
    (isLast : Bool) : Block :=
  let (base, named) :=
    match collection with
    | .place path _ => (Base.place (path ++ [item.segment]), Named.item)
    | _ => (.value item.value, .value item.value)
  let names :=
    match names with
    | [name] => [(name, named)]
    | [name, key] => [(key, .value item.key), (name, named)]
    | _ => []
  let key :=
    match item.key with
    | .string key => [("key", Json.string key)]
    | _ => []
  let locals := Fields.ofList <| key ++ [
    ("first", .bool (position == 0)), ("last", .bool isLast),
    ("index", .integer (Int.ofNat position))]
  ⟨base, names, some locals⟩

def writeItems (call : Call) (collection : Found) (body : List Block → Render String)
    (position : Nat) : List Item → Render String
  | [] => pure ""
  | item :: items => do
    let block := itemBlock collection call.names item position items.isEmpty
    let text ← body (block :: call.blocks)
    return text ++ (← writeItems call collection body (position + 1) items)

def writeEach (call : Call) : Render String := do
  let collection ← call.param 0
  match call.body, items? collection.json with
  | none, _ => return ""
  | some body, some (item :: items) =>
    Render.locally (writeItems call collection body 0 (item :: items))
  | some _, _ => call.writeInverse

/-! Values. -/

def member (call : Call) : Render Json := do
  let collection ← call.param 0
  let key ← call.param 1
  let found :=
    match collection.json with
    | .array items => key.json.natural?.bind (items[·]?)
    | .object fields => key.json.string?.bind fun key => Fields.get? fields key
    | _ => none
  return found.getD .null

/-- The number of items, or of bytes in a text. -/
def size : Json → Nat
  | .array items => items.length
  | .object fields => fields.length
  | .string text => text.utf8ByteSize
  | _ => 0

def levels : List String := ["error", "warn", "info", "debug", "trace"]

/-- A note for the log, which leaves no text. -/
def writeLog (call : Call) : Render String :=
  let level := ((call.hash.get? "level").bind fun found => found.json.string?).getD "info"
  if levels.contains (TemplateFormat.asciiLower level) then pure ""
  else Render.fail (.template (.invalidArgument call.name))

def truth? (helper : Helper) (call : Call) : Option (Render Bool) :=
  match helper with
  | relation r => some do
    let a ← call.param 0
    let b ← call.param 1
    return r.holds a.json b.json
  | conjunction => some (pure (call.params.all fun found => isTrue false found.json))
  | disjunction => some (pure (call.params.any fun found => isTrue false found.json))
  | negation => some do return !isTrue false (← call.param 0).json
  | _ => none

/-- A truth value, or the part of the block that is meant for it. -/
def writeTruth (call : Call) (holds : Bool) : Render String :=
  if !call.isBlock then pure (if holds then "true" else "false")
  else if holds then call.writeBody
  else call.writeInverse

def value? (host : Host) (helper : Helper) (call : Call) : Option (Render Json) :=
  match helper with
  | get => some (variableValue call)
  | equal => some do return .bool (← areEqual call)
  | lookup => some (member call)
  | length => some do return .integer (Int.ofNat (size (← call.param 0).json))
  | function f => some do return (← callFunction host f call).value
  | helper => (helper.truth? call).map fun truth => do return .bool (← truth)

/-- What a helper writes in the text of a template. Only plain values and the parts of blocks are
put on the margin. -/
def write (host : Host) (helper : Helper) (call : Call) : Render String :=
  match helper with
  | message => writeMessage call
  | set => assign call
  | get => return (← variableValue call).inline
  | json => return ((call.param? 0).getD .null).compact
  | equal => return if ← areEqual call then "True" else ""
  | raw => call.writeBody
  | missing => writeMissing host call
  | condition positive => writeCondition positive call
  | each => writeEach call
  | within => writeWithin call
  | lookup => do Render.emit (shown (← member call))
  | length => do Render.emit (toString (size (← call.param 0).json))
  | log => writeLog call
  | function f => return (← callFunction host f call).value.inline
  | helper =>
    match helper.truth? call with
    | some truth => do writeTruth call (← truth)
    | none => pure ""

/-- The value of a call inside of another call. -/
def evaluate (host : Host) (helper : Helper) (call : Call) : Render Json :=
  match helper.value? host call with
  | some value => value
  | none => return .string (← helper.write host call)

end Helper

end PromptKernel.Template
