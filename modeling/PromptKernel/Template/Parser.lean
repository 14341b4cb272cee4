import PromptKernel.Template.Piece

/-! Templates from their text. The tags of blocks are matched with each other, and each block
becomes one element. -/

namespace PromptKernel.Template

structure Branch where
  expression : Expression
  names : List String
  ownLine : Bool

/-- What a tag that is still open will become. -/
inductive Opener
  /-- A block with its finished branches, the last one first, and the branch that is being read
  unless it follows a plain else. -/
  | block (branches : List (Branch × List Element)) (current : Option Branch)
  | raw (branch : Branch)
  | decorator (expression : Expression)
  | inclusion (expression : Expression) (ownLine : Bool)

/-- An open tag with the elements around it so far, the last one first. -/
structure Frame where
  opener : Opener
  outside : List Element

def Branch.element (branch : Branch) (body : List Element) (inverse : Option (List Element)) :
    Element :=
  .block branch.expression branch.names branch.ownLine body inverse

/-- Nests the branches of a block, each in the else of the one before. -/
def nest (inverse : Option (List Element)) : List (Branch × List Element) → Option Element
  | [] => none
  | [(branch, body)] => some (branch.element body inverse)
  | (branch, body) :: branches => nest (some [branch.element body inverse]) branches

def Opener.name? : Opener → Option String
  | block branches current =>
    match branches.getLast?, current with
    | some (branch, _), _ => branch.expression.writtenName?
    | none, some branch => branch.expression.writtenName?
    | none, none => none
  | raw branch => branch.expression.writtenName?
  | decorator expression => expression.writtenName?
  | inclusion expression _ => expression.writtenName?

/-- Whether a closing tag belongs to the open one. It has to repeat the name, which closing tags
of decorators and partial templates may leave out. -/
def Opener.closedBy (opener : Opener) (name : Option String) : Bool :=
  match opener, name with
  | decorator _, none | inclusion _ _, none => true
  | _, none => false
  | _, some name => opener.name? == some name

/-- The element of an open tag whose last part is complete. -/
def Opener.element? (inside : List Element) : Opener → Option Element
  | block branches (some branch) => nest none ((branch, inside) :: branches)
  | block branches none => nest (some inside) branches
  | raw branch => some (branch.element inside none)
  | decorator expression => some (.decorator expression (some inside))
  | inclusion expression ownLine => some (.inclusion expression [] ownLine (some inside))

/-- The elements being read, the last one first, and the open tags around them. -/
structure Nesting where
  inside : List Element := []
  frames : List Frame := []

namespace Nesting

def add (n : Nesting) (element : Element) : Nesting := { n with inside := element :: n.inside }

def enter (n : Nesting) (opener : Opener) : Nesting := ⟨[], ⟨opener, n.inside⟩ :: n.frames⟩

def branch? (n : Nesting) (next : Option Branch) : Option Nesting :=
  match n.frames with
  | ⟨.block branches (some branch), outside⟩ :: frames =>
    some ⟨[], ⟨.block ((branch, n.inside.reverse) :: branches) next, outside⟩ :: frames⟩
  | _ => none

def leave? (n : Nesting) (name : Option String) (isRaw : Bool) : Option Nesting :=
  match n.frames with
  | [] => none
  | ⟨opener, outside⟩ :: frames =>
    let fits := match opener with
      | .raw _ => isRaw
      | _ => !isRaw
    if fits && opener.closedBy name then
      (opener.element? n.inside.reverse).map fun element => ⟨element :: outside, frames⟩
    else none

def step? (n : Nesting) : Token → Option Nesting
  | .text s => some (if s.isEmpty then n else n.add (.text s))
  | .tag kind ownLine indent =>
    match kind with
    | .output e => some (n.add (.output e))
    | .blockStart e names => some (n.enter (.block [] (some ⟨e, names, ownLine⟩)))
    | .rawStart e names => some (n.enter (.raw ⟨e, names, ownLine⟩))
    | .rawEnd name => n.leave? (some name) true
    | .close name => n.leave? name false
    | .otherwise => n.branch? none
    | .otherwiseIf e names => n.branch? (some ⟨e, names, ownLine⟩)
    | .decorator e => some (n.add (.decorator e none))
    | .decoratorStart e => some (n.enter (.decorator e))
    | .inclusion e => some (n.add (.inclusion e indent ownLine none))
    | .inclusionStart e => some (n.enter (.inclusion e ownLine))
    | .comment => some n

end Nesting

/-- The tree of settled tokens. Every open tag has to be closed. -/
def ofTokens? (tokens : List Token) : Option (List Element) := do
  let n ← tokens.foldlM Nesting.step? {}
  if n.frames.isEmpty then return n.inside.reverse else none

def ofChars? (text : List Char) : Option (List Element) :=
  (pieces? (text.length + 1) true text).bind fun pieces => ofTokens? (settle {} pieces)

end PromptKernel.Template
