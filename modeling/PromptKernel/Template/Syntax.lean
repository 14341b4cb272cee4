import PromptKernel.Json.Basic

/-! Templates as trees. A template is a list of elements: text, expressions in braces, blocks with
a body, decorators and inclusions of partial templates. -/

namespace PromptKernel.Template

inductive Step
  | key (name : String)
  /-- Out to the enclosing block. -/
  | up
  /-- To the root of the context. -/
  | root
deriving DecidableEq, Repr

/-- A path as written, with what it leads to. -/
inductive Path
  | steps (written : String) (steps : List Step)
  /-- A variable as seen from the block that lies `level` blocks out. -/
  | frame (written : String) (level : Nat) (name : String)
deriving DecidableEq, Repr

def Path.written : Path → String
  | steps written _ => written
  | frame written _ _ => written

inductive Argument
  | name (text : String)
  | path (path : Path)
  | literal (value : Json)
  /-- A call in parentheses of the helper with this name. -/
  | call (name : String) (params : List Argument) (hash : List (String × Argument))

structure Expression where
  head : Argument
  params : List Argument := []
  hash : List (String × Argument) := []

/-- Whether the expression is a head alone, which may be a value or a helper. -/
def Expression.isBare (e : Expression) : Bool := e.params.isEmpty && e.hash.isEmpty

/-- The name that a closing tag has to repeat. -/
def Expression.writtenName? (e : Expression) : Option String :=
  match e.head with
  | .name text => some text
  | .path path => some path.written
  | _ => none

inductive Element
  | text (s : String)
  | output (e : Expression)
  /-- A call of a helper with a body, which may have a line for itself. `names` are what the body
  calls its item and its key, and the inverse is the part after an else. -/
  | block (e : Expression) (names : List String) (ownLine : Bool) (body : List Element)
      (inverse : Option (List Element))
  | decorator (e : Expression) (body : Option (List Element))
  /-- A partial template with the indentation in front of it, which may have a line for itself. -/
  | inclusion (e : Expression) (indent : List Char) (ownLine : Bool) (body : Option (List Element))

end PromptKernel.Template
