import PromptKernel.Template.Helper
import PromptKernel.Template.Parser
import PromptKernel.Template.Shorthand

/-! Rendering templates. The tree of a template is walked once from left to right; helpers get the
parts of their blocks as further renderings, which they may run in blocks of their own. -/

namespace PromptKernel.Template

structure Setting where
  host : Host
  /-- The variables at the start. -/
  context : Json

/-- Looks a path up. Once the context has been renewed, values no longer have a place, and nothing
is missing. -/
def resolve (setting : Setting) (blocks : List Block) (path : Path) : Render Found := do
  match (← get).renewed with
  | none => Render.ofRun (Run.ofExcept (lookup setting.context blocks path))
  | some context =>
    return .value (← Render.ofRun (Run.ofExcept (lookup context blocks path))).json

mutual

def evaluate (setting : Setting) (blocks : List Block) : Argument → Render Found
  | .name _ => return .missing
  | .path path => resolve setting blocks path
  | .literal value => return .value value
  | .call name params hash => do
    let params ← evaluateAll setting blocks params
    let hash ← evaluateHash setting blocks hash
    let helper := (Helper.ofName? setting.host.functions name).getD .missing
    return .value (← helper.evaluate setting.host { name, params, hash, blocks })

def evaluateAll (setting : Setting) (blocks : List Block) : List Argument → Render (List Found)
  | [] => return []
  | argument :: arguments => do
    let first ← evaluate setting blocks argument
    return first :: (← evaluateAll setting blocks arguments)

def evaluateHash (setting : Setting) (blocks : List Block) :
    List (String × Argument) → Render (Fields Found)
  | [] => return []
  | (key, argument) :: rest => do
    let value ← evaluate setting blocks argument
    return (key, value) :: (← evaluateHash setting blocks rest)

end

/-- The name that a head stands for. A call stands for its value. -/
def nameOf (setting : Setting) (blocks : List Block) : Argument → Render String
  | .name text => return text
  | .path path => return path.written
  | argument => return shown (← evaluate setting blocks argument).json

def call (setting : Setting) (blocks : List Block) (e : Expression) : Render Call := do
  let name ← nameOf setting blocks e.head
  let params ← evaluateAll setting blocks e.params
  let hash ← evaluateHash setting blocks e.hash
  return { name, params, hash, blocks }

def writeCall (setting : Setting) (blocks : List Block) (e : Expression) : Render String := do
  let call ← call setting blocks e
  let helper := (Helper.ofName? setting.host.functions call.name).getD .missing
  Render.part (·.enter false) (helper.write setting.host call)

/-- A head alone is a helper if there is one of that name, and a value otherwise. -/
def writeOutput (setting : Setting) (blocks : List Block) (e : Expression) : Render String := do
  if !e.isBare then writeCall setting blocks e
  else
    let name ← nameOf setting blocks e.head
    match Helper.ofName? setting.host.functions name with
    | some _ => writeCall setting blocks e
    | none =>
      match ← evaluate setting blocks e.head with
      | .missing => Helper.writeMissing setting.host (← call setting blocks e)
      | found => Render.emit (shown found.json)

/-- A value as fields that named arguments can be put on top of. Items and characters go by their
positions. -/
def fieldsOf : Json → Fields Json
  | .object fields => fields
  | .array items => numbered items
  | .string text => numbered (text.toList.map fun c => .string (String.singleton c))
  | _ => []
where
  numbered (items : List Json) : Fields Json :=
    Fields.ofList (items.zipIdx.map fun (item, i) => (toString i, item))

/-- The block of an included template. It holds what the parameter, or else the block around it,
comes to at the time of the inclusion, with the named arguments on top. They are also names that
the block gives away. -/
def inclusionBlock (setting : Setting) (call : Call) : Render Block := do
  let found ←
    match call.params with
    | found :: _ => pure found
    | [] => resolve setting call.blocks (.steps "" [])
  let named := call.hash.mapValues Found.json
  let value :=
    if named.isEmpty then found.json else .object (Fields.merge (fieldsOf found.json) named)
  return { base := .value value, names := named.map fun (name, value) => (name, .value value) }

inductive Partial
  | template (elements : List Element)
  /-- A body that is rendered already. -/
  | body (text : String)

/-- The partial template with a name. The body of the inclusion around it has a name of its own. -/
def findPartial (name : String) : Render (Option Partial) := do
  let partials := (← get).partials
  if name = "@partial-block" then return partials.body.map .body
  else return (partials.named.get? name).map .template

abbrev Renderer := List Element → List Block → Render String

mutual

/-- Renders one element. Templates that it includes are left to `included`. -/
def renderElement (setting : Setting) (included : Renderer) :
    Element → List Block → Render String
  | .text s, _ => Render.emit s
  | .output e, blocks => writeOutput setting blocks e
  | .block e names ownLine body inverse, blocks => do
    let call ← call setting blocks e
    let call := { call with
      names
      body := some (renderElements setting included body)
      inverse := renderInverse setting included inverse }
    match Helper.ofName? setting.host.functions call.name with
    | some helper => Render.part (·.enter ownLine) (helper.write setting.host call)
    | none => Render.fail (.unknownHelper call.name)
  | .decorator e body, blocks => do
    let call ← call setting blocks e
    if call.name = "inline" then
      match call.params.map Found.json, body with
      | .string name :: _, some body =>
        modify fun progress => { progress with
          partials.named := progress.partials.named.insert name body }
        return ""
      | [], _ => Render.fail (.template (.missingArgument call.name))
      | _, _ => Render.fail (.template (.invalidArgument call.name))
    else Render.fail (.template (.unknownDecorator call.name))
  | .inclusion e indent ownLine body, blocks => do
    let call ← call setting blocks e
    let found ← findPartial call.name
    let block ← inclusionBlock setting call
    let blocks := block :: blocks
    Render.part (·.enterIndented indent ownLine) <| Render.locally do
      let body ← renderBody setting included body blocks
      match found, body with
      | some (.template elements), _ => included elements blocks
      | some (.body text), _ => return text
      | none, some text => return text
      | none, none => Render.fail (.template (.unknownPartial call.name))

def renderElements (setting : Setting) (included : Renderer) :
    List Element → List Block → Render String
  | [], _ => return ""
  | element :: elements, blocks => do
    let text ← renderElement setting included element blocks
    return text ++ (← renderElements setting included elements blocks)

def renderInverse (setting : Setting) (included : Renderer) :
    Option (List Element) → Option (List Block → Render String)
  | none => none
  | some body => some (renderElements setting included body)

/-- Renders the body of an inclusion, once, for the template that is included. -/
def renderBody (setting : Setting) (included : Renderer) :
    Option (List Element) → List Block → Render (Option String)
  | none, _ => return none
  | some body, blocks => do
    let text ← renderElements setting included body blocks
    modify fun progress => { progress with partials.body := some text }
    return some text

end

/-- Renders elements with templates that include each other up to a depth. -/
def renderWithin (setting : Setting) : Nat → Renderer
  | 0 => fun _ _ => Render.fail (.template .endlessInclusion)
  | depth + 1 => renderElements setting (renderWithin setting depth)

def depthLimit : Nat := 10000

/-- The tree of a template whose blocks may be written the shorter way. -/
def read? (source : String) : Option (List Element) := ofChars? (expand source.toList)

theorem read?_of_expand {source : String} (spelled : String) (expands : expand source.toList = spelled.toList) :
    read? source = ofChars? spelled.toList := congrArg ofChars? expands

def renderTree (host : Host) (elements : List Element) : Run String := do
  let setting : Setting := ⟨host, .object (← Run.bindings)⟩
  let (text, _) ← renderWithin setting depthLimit elements [{}] {}
  return text

def render (host : Host) (source : String) : Run String :=
  match read? source with
  | some elements => renderTree host elements
  | none => throw (.template .malformed)

theorem render_of_read? {source : String} {elements : List Element} (read : read? source = some elements) (host : Host) :
    render host source = renderTree host elements := by
  rw [render, read]

theorem render_of_unreadable {source : String} (unreadable : read? source = none) (host : Host) :
    render host source = throw (.template .malformed) := by
  rw [render, unreadable]

end PromptKernel.Template
