import PromptKernel.Error
import PromptKernel.Function.Definition

/-! Binding the parameters of a function to variables before it is called. A call from a template
brings arguments along, a call from outside of any template has none. -/

namespace PromptKernel

namespace Parameter

/-- Whether a call supplies the parameter. Arguments have to do so themselves; without any, a
variable or a default will do. -/
def isSupplied (parameter : Parameter) (arguments : Option (Fields Json))
    (bindings : Fields Json) : Bool :=
  match arguments with
  | some arguments => arguments.has parameter.name
  | none => bindings.has parameter.name || parameter.defaultValue.isSome

/-- Binds the parameter to its argument, or to its default when it is not bound yet. -/
def bind (parameter : Parameter) (arguments : Option (Fields Json)) (bindings : Fields Json) :
    Fields Json :=
  match arguments.bind (·.get? parameter.name) with
  | some value => bindings.insert parameter.name value
  | none =>
    if bindings.has parameter.name then bindings
    else
      match parameter.defaultValue with
      | some value => bindings.insert parameter.name value
      | none => bindings

end Parameter

namespace Definition

def missing? (definition : Definition) (arguments : Option (Fields Json))
    (bindings : Fields Json) : Option Parameter :=
  definition.ownParameters.find? fun parameter =>
    parameter.required && !parameter.isSupplied arguments bindings

/-- The variables after all parameters are bound in order. Nothing is bound when a required
parameter is missing. -/
def bind (definition : Definition) (arguments : Option (Fields Json)) (bindings : Fields Json) :
    Except Error (Fields Json) :=
  match definition.missing? arguments bindings with
  | some parameter => .error (.missingRequiredParameter parameter.name definition.name)
  | none =>
    .ok (definition.ownParameters.foldl (fun bindings parameter =>
      parameter.bind arguments bindings) bindings)

/-- What a function that was called finds as its arguments. -/
def boundArguments (definition : Definition) (bindings : Fields Json) : Fields Json :=
  Fields.ofList (definition.ownParameters.filterMap fun parameter =>
    (bindings.get? parameter.name).map fun value => (parameter.name, value))

end Definition

end PromptKernel
