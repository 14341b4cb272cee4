import PromptKernel.Function.Definition
import PromptKernel.Json.Printer

/-! What a function gives back. -/

namespace PromptKernel

structure Result where
  group : String
  name : String
  value : Json
  /-- The model that produced the value, if any did. -/
  modelId : Option String := none

namespace Result

def of (definition : Definition) (value : Json) (modelId : Option String := none) : Result :=
  ⟨definition.group, definition.name, value, modelId⟩

/-- The result as a text: a string as it is, null as nothing, all else as compact JSON. -/
def text (result : Result) : String :=
  match result.value with
  | .string text => text
  | .null => ""
  | value => value.compact

/-- A result reads the same on its own and in running text. -/
theorem text_eq_inline (result : Result) : result.text = result.value.inline := by
  unfold text Json.inline
  cases result.value <;> rfl

end Result

end PromptKernel
