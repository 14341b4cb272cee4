import PromptKernel.Proofs.WiderVariables
import PromptKernel.Template.Render

/-! Templates that do not use one variable. Nothing in them looks the variable up, assigns it or
takes all variables together as a value. A template may also be asked to leave a variable alone while
a block goes through it: what is written about blocks for variables differs with the time at which a
rendering last changed variables. -/

namespace PromptKernel.Template

/-- Where an element stands: how many blocks around it, from the inside, are not for all variables
together, and which names may be assigned there. -/
structure Scope where
  depth : Nat
  free : String → Prop

/-- The inner scope has all that can be relied on in the outer one. -/
structure Scope.Fits (outer inner : Scope) : Prop where
  depth : outer.depth ≤ inner.depth
  free : ∀ name, outer.free name → inner.free name

structure Rules where
  functions : List Function
  /-- The one variable. -/
  name : String
  /-- The names that a call of a function may assign. -/
  assigns : Function → String → Prop
  /-- Whether variables are left alone while blocks go through them. -/
  guarded : Bool
  /-- The scope that the partial template with a name is written for. -/
  partialScope : String → Scope

/-- The variable that a path starts from, unless it starts from a block. -/
def Path.anchor? (depth : Nat) : Path → Option String
  | .frame .. => none
  | .steps _ route =>
    let (ups, rest) := splitUps route
    if (ups = 0 ∧ rest.head? = some .root) ∨ depth ≤ ups then (keysOf route).head? else none

def Argument.anchor? (depth : Nat) : Argument → Option String
  | .path route => route.anchor? depth
  | _ => none

/-- What a text that is meant as a name may turn out to be. -/
def Argument.MayBe : Argument → String → Prop
  | .literal (.string text), written => written = text
  | .literal _, _ => False
  | _, _ => True

/-- The names by which a call may call a helper. -/
def Expression.MayCall (e : Expression) (name : String) : Prop := ∀ written ∈ e.writtenName?, name = written

/-- The argument of a helper that is given by its name or else by its position. -/
def given? (params : List Argument) (hash : List (String × Argument)) (position : Nat) (key : String) :
    Option Argument :=
  Fields.get? hash key <|> params[position]?

/-- Helpers whose bodies are about a value. -/
def Helper.Opens (helper : Helper) : Prop := helper = .each ∨ helper = .within

/-- The scope of the other arguments, while the value of the first one is held. -/
def Scope.holding (scope : Scope) (guarded : Bool) (params : List Argument) : Scope :=
  { scope with
    free := fun name => scope.free name ∧
      (guarded = true → (params.head?.bind (Argument.anchor? scope.depth)) ≠ some name) }

/-- The scope of a body that is about the first argument. -/
def Scope.within (scope : Scope) (guarded : Bool) (params : List Argument) : Scope :=
  { scope.holding guarded params with depth := scope.depth + 1 }

/-- The scope of an included template. Without an argument it is about what the template around it is
about, which may be all variables. -/
def Scope.including (scope : Scope) (params : List Argument) : Scope :=
  if params = [] ∧ scope.depth = 0 then scope else { scope with depth := scope.depth + 1 }

variable (rules : Rules)

/-- A path that leads to a variable other than the one, or is about a block. -/
def Path.Spares (scope : Scope) : Path → Prop
  | .frame .. => True
  | .steps _ route => rules.name ∉ keysOf route ∧
    (keysOf route = [] → (splitUps route).1 < scope.depth ∧ (splitUps route).2.head? ≠ some .root)

def Helper.Spares (scope : Scope) (params : List Argument) (hash : List (String × Argument)) : Helper → Prop
  | message => params = [] → hash = [] → "message" ≠ rules.name
  | get => ∀ argument ∈ given? params hash 0 "name", ∀ name, argument.MayBe name → name ≠ rules.name
  | set => ∀ argument ∈ given? params hash 0 "name", ∀ name, argument.MayBe name →
    Assignable rules.name scope.free name
  | function f => ∀ name, rules.assigns f name → scope.free name
  | _ => True

mutual

def Argument.Spares (scope : Scope) : Argument → Prop
  | .name _ => True
  | .path route => route.Spares rules scope
  | .literal _ => True
  | .call helper params hash => AllSpare scope params ∧ NamedSpare scope hash ∧
    ((Helper.ofName? rules.functions helper).getD .missing).Spares rules scope params hash

def AllSpare (scope : Scope) : List Argument → Prop
  | [] => True
  | argument :: arguments => argument.Spares scope ∧ AllSpare scope arguments

def NamedSpare (scope : Scope) : List (String × Argument) → Prop
  | [] => True
  | (_, argument) :: arguments => argument.Spares scope ∧ NamedSpare scope arguments

end

/-- The name and the arguments of a call. -/
structure Expression.CallSpares (scope : Scope) (e : Expression) : Prop where
  head : e.head.Spares rules scope
  params : AllSpare rules scope e.params
  hash : NamedSpare rules scope e.hash

structure Expression.Spares (scope : Scope) (e : Expression) : Prop extends e.CallSpares rules scope where
  helper : ∀ name, e.MayCall name →
    ((Helper.ofName? rules.functions name).getD .missing).Spares rules scope e.params e.hash

/-- The other arguments do not assign the variable that the body is about. -/
structure Expression.Holds (scope : Scope) (e : Expression) : Prop where
  params : AllSpare rules (scope.holding rules.guarded e.params) e.params.tail
  hash : NamedSpare rules (scope.holding rules.guarded e.params) e.hash

mutual

def Element.Spares : Element → Scope → Prop
  | .text _, _ => True
  | .output e, scope => e.Spares rules scope
  | .block e _ _ body inverse, scope => e.Spares rules scope ∧
    (∀ name helper, e.MayCall name → Helper.ofName? rules.functions name = some helper →
      (helper.Opens → e.Holds rules scope ∧ ElementsSpare body (scope.within rules.guarded e.params)) ∧
      (¬ helper.Opens → ElementsSpare body scope)) ∧
    BodySpares inverse scope
  | .decorator e body, scope => e.CallSpares rules scope ∧
    ∀ argument ∈ e.params.head?, ∀ name, argument.MayBe name → BodySpares body (rules.partialScope name)
  | .inclusion e _ _ body, scope => e.CallSpares rules scope ∧ rules.name ∉ e.hash.map Prod.fst ∧
    BodySpares body (scope.including e.params) ∧
    ∀ name, e.MayCall name → (rules.partialScope name).Fits (scope.including e.params)

def ElementsSpare : List Element → Scope → Prop
  | [], _ => True
  | element :: elements, scope => element.Spares scope ∧ ElementsSpare elements scope

def BodySpares : Option (List Element) → Scope → Prop
  | none, _ => True
  | some body, scope => ElementsSpare body scope

end

end PromptKernel.Template
