import PromptKernel.Fields

/-! TOML values. Numbers with a point and dates only need to be well formed for what is read from
such documents, so they carry no value. -/

namespace PromptKernel

inductive Toml
  | string (text : String)
  | integer (value : Int)
  | float
  | bool (value : Bool)
  | dateTime
  | array (items : List Toml)
  | table (entries : List (String × Toml))

namespace Toml

/-- Whole numbers that fit in 128 bits, with or without a sign. -/
def fits (value : Int) : Bool :=
  -0x80000000000000000000000000000000 ≤ value && value < 0x100000000000000000000000000000000

mutual

/-- Every whole number in the value fits. -/
def bounded : Toml → Bool
  | integer value => fits value
  | array items => boundedItems items
  | table entries => boundedEntries entries
  | _ => true

def boundedItems : List Toml → Bool
  | [] => true
  | item :: items => bounded item && boundedItems items

def boundedEntries : List (String × Toml) → Bool
  | [] => true
  | (_, value) :: entries => bounded value && boundedEntries entries

end

def string? : Toml → Option String
  | string text => some text
  | _ => none

/-- A whole number of 64 bits without a sign. -/
def natural? : Toml → Option Nat
  | integer value =>
    if 0 ≤ value ∧ value < 0x10000000000000000 then some value.toNat else none
  | _ => none

def array? : Toml → Option (List Toml)
  | array items => some items
  | _ => none

/-- The members of a record with these fields. A table names them, and an array has them in
order; fields that are left out and further members are no error here. -/
def record? (fields : List String) : Toml → Option (Fields Toml)
  | table entries => some entries
  | array items => some (Fields.ofList (fields.zip items))
  | _ => none

end Toml

end PromptKernel
