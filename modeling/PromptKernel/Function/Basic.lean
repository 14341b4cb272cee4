import PromptKernel.Function.Listing
import PromptKernel.Function.Program

/-! Functions. A function either renders a template and has a service complete the conversation,
or runs a program. -/

namespace PromptKernel

inductive Function
  | template (definition : Definition)
  | native (definition : Definition) (handler : Handler)

namespace Function

def definition : Function → Definition
  | template definition => definition
  | native definition _ => definition

def ref (function : Function) : FunctionRef := ⟨function.definition.group, function.definition.name⟩

def helperName (function : Function) : String := function.definition.helperName

def nativeListing (definition : Definition) : String :=
  Listing.openRecord "NativeFunction" [("definition", definition.listing)]

end Function

end PromptKernel
