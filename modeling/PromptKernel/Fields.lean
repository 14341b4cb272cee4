/-! Finite maps with text keys, kept in the order of the keys. -/

namespace PromptKernel

/-- Entries in increasing order of their keys, as long as they come from `empty` by the operations
below. -/
abbrev Fields (α : Type u) := List (String × α)

namespace Fields
variable {α : Type u} {β : Type v}

def empty : Fields α := []

def get? (fields : Fields α) (key : String) : Option α :=
  match fields with
  | [] => none
  | (k, v) :: rest => if k = key then some v else get? rest key

def has (fields : Fields α) (key : String) : Bool := (fields.get? key).isSome

def insert (fields : Fields α) (key : String) (value : α) : Fields α :=
  match fields with
  | [] => [(key, value)]
  | (k, v) :: rest =>
    if k = key then (key, value) :: rest
    else if key < k then (key, value) :: (k, v) :: rest
    else (k, v) :: insert rest key value

def erase (fields : Fields α) (key : String) : Fields α :=
  fields.filter fun entry => entry.1 != key

def keys (fields : Fields α) : List String := fields.map Prod.fst

/-- Later pairs overwrite earlier ones with the same key. -/
def ofList (pairs : List (String × α)) : Fields α :=
  pairs.foldl (fun fields pair => fields.insert pair.1 pair.2) empty

/-- The left map overwritten by the right one. -/
def merge (left right : Fields α) : Fields α :=
  right.foldl (fun fields pair => fields.insert pair.1 pair.2) left

def mapValues (f : α → β) (fields : Fields α) : Fields β :=
  fields.map fun entry => (entry.1, f entry.2)

@[simp] theorem get?_empty (key : String) : get? (empty : Fields α) key = none := rfl

theorem get?_insert (fields : Fields α) (key other : String) (value : α) :
    (fields.insert key value).get? other =
      if key = other then some value else fields.get? other := by
  induction fields with
  | nil => rfl
  | cons entry rest ih =>
    obtain ⟨k, v⟩ := entry
    simp only [insert]
    split
    · next same => subst same; by_cases same : k = other <;> simp [get?, same]
    · next different =>
      split
      · rfl
      · simp only [get?]
        split
        · next same => subst same; simp [Ne.symm different]
        · exact ih

@[simp] theorem get?_insert_self (fields : Fields α) (key : String) (value : α) :
    (fields.insert key value).get? key = some value := by simp [get?_insert]

theorem get?_insert_of_ne {key other : String} (different : key ≠ other) (fields : Fields α)
    (value : α) : (fields.insert key value).get? other = fields.get? other := by
  simp [get?_insert, different]

theorem get?_erase (fields : Fields α) (key other : String) :
    (fields.erase key).get? other = if key = other then none else fields.get? other := by
  induction fields with
  | nil => simp [erase, get?]
  | cons entry rest ih =>
    obtain ⟨k, v⟩ := entry
    by_cases same : k = key
    · subst same
      have dropped : erase ((k, v) :: rest) k = erase rest k := by simp [erase]
      rw [dropped, ih]
      by_cases equal : k = other <;> simp [get?, equal]
    · have kept : erase ((k, v) :: rest) key = (k, v) :: erase rest key := by simp [erase, same]
      rw [kept]
      simp only [get?, ih]
      by_cases equal : k = other
      · subst equal; simp [Ne.symm same]
      · simp [equal]

end Fields

end PromptKernel
