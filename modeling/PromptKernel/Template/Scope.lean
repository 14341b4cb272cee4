import PromptKernel.Error
import PromptKernel.Template.Syntax

/-! What the paths of a template lead to. Paths start from the context of the template or from the
item of a block around them, and items that are part of the context are known by their place in
it, so that they change with it. -/

namespace PromptKernel.Template

/-- Where a block takes its names from. -/
inductive Base
  | place (path : List String)
  | value (value : Json)

/-- What a name that a block gives away stands for. -/
inductive Named
  /-- The item at the place of the block. -/
  | item
  | value (value : Json)

structure Block where
  base : Base := .place []
  names : List (String × Named) := []
  /-- The variables of a block for an item, such as the position of the item. -/
  locals : Option (Fields Json) := none

inductive Found
  | place (path : List String) (value : Json)
  | value (value : Json)
  | missing

def Found.json : Found → Json
  | place _ v => v
  | value v => v
  | missing => .null

/-- A position in an array. -/
def index? (key : String) : Option Nat :=
  let digits :=
    match key.toList with
    | '+' :: rest => rest
    | digits => digits
  if digits.isEmpty ∨ !digits.all Char.isDigit then none
  else
    let n := digits.foldl (fun n c => n * 10 + (c.toNat - 48)) 0
    if n < 0x10000000000000000 then some n else none

theorem index?_of_unsigned {key : String} (unsigned : ∀ rest, key.toList ≠ '+' :: rest) :
    index? key = if key.toList.isEmpty ∨ !key.toList.all Char.isDigit then none
      else if key.toList.foldl (fun n c => n * 10 + (c.toNat - 48)) 0 < 0x10000000000000000 then
        some (key.toList.foldl (fun n c => n * 10 + (c.toNat - 48)) 0)
      else none := by
  unfold index?
  generalize key.toList = chars at unsigned ⊢
  simp only

theorem index?_toString (i : Nat) : index? (toString i) = if i < 0x10000000000000000 then some i else none := by
  have digits : (toString i).toList = Nat.toDigits 10 i := Nat.toList_repr
  have isDigit : ∀ c ∈ Nat.toDigits 10 i, c.isDigit = true := fun c member =>
    Nat.isDigit_of_mem_toDigits (by decide) (by decide) member
  have unsigned : ∀ rest, (toString i).toList ≠ '+' :: rest := by
    intro rest same
    rw [digits] at same
    cases isDigit '+' (by simp [same])
  have read : (Nat.toDigits 10 i).foldl (fun n c => n * 10 + (c.toNat - 48)) 0 = i := by
    have same : (fun (n : Nat) (c : Char) => n * 10 + (c.toNat - 48)) = fun n c => 10 * n + (c.toNat - '0'.toNat) := by
      funext n c
      rw [Nat.mul_comm]
      rfl
    rw [same]
    exact Nat.ofDigitChars_toDigits (by decide) (by decide)
  have written : ¬((Nat.toDigits 10 i).isEmpty = true ∨ (!(Nat.toDigits 10 i).all Char.isDigit) = true) := by
    rintro (empty | other)
    · rw [List.isEmpty_iff.mp empty] at read
      simp [← read] at empty
    · rw [List.all_eq_true.mpr isDigit] at other
      cases other
  rw [index?_of_unsigned unsigned, digits, read, if_neg written]

/-- The member under a key. Keys of arrays have to be positions. -/
def child? (value : Json) (key : String) : Except Error (Option Json) :=
  match value with
  | .array items =>
    match index? key with
    | some i => .ok items[i]?
    | none => .error (.template (.invalidIndex key))
  | .object fields => .ok (Fields.get? fields key)
  | _ => .ok none

def follow (value : Json) : List String → Except Error (Option Json)
  | [] => .ok (some value)
  | key :: keys =>
    match child? value key with
    | .error error => .error error
    | .ok none => .ok none
    | .ok (some value) => follow value keys

def keysOf (steps : List Step) : List String :=
  steps.filterMap fun step =>
    match step with
    | .key name => some name
    | _ => none

/-- The number of blocks that the steps first lead out of, and the steps after that. -/
def splitUps : List Step → Nat × List Step
  | .up :: steps => ((splitUps steps).1 + 1, (splitUps steps).2)
  | steps => (0, steps)

/-- Where the steps lead from the blocks around them, the innermost one first. -/
inductive Target
  | place (path : List String)
  | within (value : Json) (path : List String)

def Block.path (block : Block) : List String :=
  match block.base with
  | .place path => path
  | .value _ => []

def Block.target (block : Block) (keys : List String) : Target :=
  match block.base with
  | .place path => .place (path ++ keys)
  | .value value => .within value keys

/-- A name that a block gives away, with the path of that block. -/
def named? (blocks : List Block) (name : String) : Option (List String × Named) :=
  blocks.findSome? fun block => (block.names.lookup name).map fun named => (block.path, named)

def target (blocks : List Block) (steps : List Step) : Target :=
  let (ups, rest) := splitUps steps
  let given :=
    match rest with
    | .key name :: rest => (named? blocks name).map fun found => (found, keysOf rest)
    | _ => none
  match given with
  | some ((_, .value value), keys) => .within value keys
  | some ((path, .item), keys) => .place (path ++ keys)
  | none =>
    let keys := keysOf steps
    if ups = 0 ∧ rest.head? = some .root then .place keys
    else ((blocks[ups]? <|> blocks.head?).getD {}).target keys

/-- Looks a path up in a context. Blocks that are not for an item have the variables of the block
around them. -/
def lookup (context : Json) (blocks : List Block) : Path → Except Error Found
  | .frame _ level name =>
    match ((blocks.drop level).findSome? Block.locals).bind fun locals => locals.get? name with
    | some value => .ok (.value value)
    | none => .ok .missing
  | .steps _ steps =>
    match target blocks steps with
    | .place path =>
      (follow context path).map fun found =>
        match found with
        | some value => .place path value
        | none => .missing
    | .within value path =>
      (follow value path).map fun found =>
        match found with
        | some value => .value value
        | none => .missing

end PromptKernel.Template
