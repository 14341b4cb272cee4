import PromptKernel.Json.Basic

/-! Named environments of variables. A name is a handle, and several names may stand for the same
environment. -/

namespace PromptKernel

namespace Fields

/-- The entries that are new or have another value than before. -/
def changes [BEq α] (before after : Fields α) : Fields α :=
  after.filter fun (key, value) =>
    match before.get? key with
    | some old => !(old == value)
    | none => true

def losses (before after : Fields α) : List String :=
  before.keys.filter fun key => !after.has key

end Fields

structure Environments where
  handles : Fields Nat := []
  all : List (Fields Json) := []

namespace Environments

/-- The position behind a name, which gets an empty environment if it is new. -/
def locate (environments : Environments) (name : String) : Environments × Nat :=
  match environments.handles.get? name with
  | some position => (environments, position)
  | none =>
    let position := environments.all.length
    (⟨environments.handles.insert name position, environments.all ++ [[]]⟩, position)

def stored (environments : Environments) (position : Nat) : Fields Json :=
  environments.all.getD position []

def bindings (environments : Environments) (name : String) : Fields Json :=
  match environments.handles.get? name with
  | some position => environments.stored position
  | none => []

/-- Changes the environment behind a name, under all of its names. -/
def update (environments : Environments) (name : String) (bindings : Fields Json) : Environments :=
  let (environments, position) := environments.locate name
  { environments with all := environments.all.set position bindings }

def replace (environments : Environments) (name : String) (bindings : Fields Json) :
    Environments :=
  ⟨environments.handles.insert name environments.all.length, environments.all ++ [bindings]⟩

def share (environments : Environments) (name other : String) : Environments :=
  let (environments, position) := environments.locate name
  { environments with handles := environments.handles.insert other position }

def fork (environments : Environments) (name other : String) : Environments :=
  environments.replace other (environments.bindings name)

def areSame (environments : Environments) (name other : String) : Bool :=
  environments.handles.get? name == environments.handles.get? other

end Environments

end PromptKernel
