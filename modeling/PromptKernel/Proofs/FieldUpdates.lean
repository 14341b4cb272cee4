import Mathlib.Data.String.Basic
import PromptKernel.Fields

/-! Updates of maps. Entries for different keys may be made in any order, of two entries for one key
the later one counts, and a map that overwrites another holds whatever it held on its own. -/

namespace PromptKernel.Fields
variable {α : Type u}

theorem insert_insert (fields : Fields α) (key : String) (old new : α) :
    (fields.insert key old).insert key new = fields.insert key new := by
  induction fields with
  | nil => simp [insert]
  | cons entry rest ih =>
    obtain ⟨k, v⟩ := entry
    by_cases same : k = key
    · simp [insert, same]
    · by_cases before : key < k <;> simp [insert, same, before, ih]

theorem insert_comm {first second : String} (different : first ≠ second) (fields : Fields α) (x y : α) :
    (fields.insert first x).insert second y = (fields.insert second y).insert first x := by
  induction fields with
  | nil =>
    rcases lt_or_gt_of_ne different with less | greater
    · simp [insert, different, different.symm, less, less.asymm]
    · simp [insert, different, different.symm, greater, greater.asymm]
  | cons entry rest ih =>
    obtain ⟨k, v⟩ := entry
    by_cases isFirst : k = first
    · subst isFirst
      by_cases before : second < k
      · have after : ¬k < second := before.asymm
        simp [insert, different, different.symm, before, after]
      · simp [insert, different, before]
    by_cases isSecond : k = second
    · subst isSecond
      by_cases before : first < k
      · have after : ¬k < first := before.asymm
        simp [insert, different, different.symm, before, after]
      · simp [insert, isFirst, before]
    by_cases one : first < k
    · by_cases two : second < k
      · rcases lt_or_gt_of_ne different with order | order <;>
          simp [insert, different, different.symm, isFirst, isSecond, one, two, order, order.asymm]
      · have after : ¬second < first := fun order => two (order.trans one)
        simp [insert, different, isFirst, isSecond, one, two, after]
    · by_cases two : second < k
      · have after : ¬first < second := fun order => one (order.trans two)
        simp [insert, different.symm, isFirst, isSecond, one, two, after]
      · simp [insert, isFirst, isSecond, one, two, ih]

theorem has_iff (fields : Fields α) (key : String) : fields.has key ↔ key ∈ fields.keys := by
  unfold has
  induction fields with
  | nil => simp [get?, keys]
  | cons entry rest ih =>
    obtain ⟨k, v⟩ := entry
    by_cases same : k = key
    · simp [get?, keys, same]
    · simp only [get?, if_neg same, ih, keys, List.map_cons, List.mem_cons, Ne.symm same, false_or]

theorem get?_of_mem {fields : Fields α} (distinct : fields.keys.Nodup) {key : String} {value : α}
    (member : (key, value) ∈ fields) : fields.get? key = some value := by
  induction fields with
  | nil => cases member
  | cons entry rest ih =>
    obtain ⟨k, v⟩ := entry
    obtain ⟨fresh, distinct⟩ := List.nodup_cons.mp distinct
    rcases List.mem_cons.mp member with same | later
    · cases same
      simp [get?]
    · have different : k ≠ key := fun same => fresh (List.mem_map.mpr ⟨(key, value), later, same.symm⟩)
      simp only [get?, if_neg different, ih distinct later]

theorem mem_of_get? {fields : Fields α} {key : String} {value : α} (found : fields.get? key = some value) :
    (key, value) ∈ fields := by
  induction fields with
  | nil => cases found
  | cons entry rest ih =>
    obtain ⟨k, v⟩ := entry
    rw [get?] at found
    split at found
    next same =>
      subst same
      cases found
      exact List.mem_cons_self
    next => exact List.mem_cons_of_mem _ (ih found)

theorem has_insert (fields : Fields α) (key other : String) (value : α) :
    (fields.insert key value).has other = (decide (key = other) || fields.has other) := by
  unfold has
  rw [get?_insert]
  by_cases same : key = other <;> simp [same]

theorem has_merge (left right : Fields α) (key : String) :
    (left.merge right).has key = (left.has key || right.has key) := by
  induction right generalizing left with
  | nil => simp [merge, has, get?]
  | cons entry rest ih =>
    obtain ⟨k, v⟩ := entry
    have step : left.merge ((k, v) :: rest) = (left.insert k v).merge rest := rfl
    have first : has ((k, v) :: rest) key = (decide (k = key) || has rest key) := by
      by_cases same : k = key <;> simp [has, get?, same]
    rw [step, ih, has_insert, first, Bool.or_left_comm, Bool.or_assoc]

theorem get?_merge (left right : Fields α) (key : String) :
    (left.merge right).get? key = (right.reverse.lookup key).or (left.get? key) := by
  induction right generalizing left with
  | nil => simp [merge]
  | cons entry rest ih =>
    obtain ⟨k, v⟩ := entry
    have step : left.merge ((k, v) :: rest) = (left.insert k v).merge rest := rfl
    rw [step, ih, get?_insert, List.reverse_cons, List.lookup_append, Option.or_assoc]
    by_cases same : k = key
    · simp [same]
    · have passed : (key == k) = false := by simpa using Ne.symm same
      simp [List.lookup_cons, passed, same]

theorem get?_merge_of_missing {right : Fields α} {key : String} (missing : right.get? key = none) (left : Fields α) :
    (left.merge right).get? key = left.get? key := by
  have absent : right.reverse.lookup key = none := by
    rw [List.lookup_eq_none_iff]
    intro entry member
    rw [bne_iff_ne]
    rintro rfl
    have there : right.has entry.1 := (has_iff right entry.1).mpr (List.mem_map_of_mem (List.mem_reverse.mp member))
    rw [has, missing] at there
    cases there
  rw [get?_merge, absent, Option.none_or]

theorem get?_mapValues (f : α → β) (fields : Fields α) (key : String) :
    (fields.mapValues f).get? key = (fields.get? key).map f := by
  induction fields with
  | nil => rfl
  | cons entry rest ih =>
    obtain ⟨k, value⟩ := entry
    have step : mapValues f ((k, value) :: rest) = (k, f value) :: mapValues f rest := rfl
    rw [step, get?, get?, ih]
    split <;> rfl

theorem get?_eq_lookup (fields : Fields α) (key : String) : fields.get? key = fields.lookup key := by
  induction fields with
  | nil => rfl
  | cons entry rest ih =>
    obtain ⟨k, value⟩ := entry
    rw [get?, List.lookup_cons, ih]
    by_cases same : k = key
    · simp [same]
    · have passed : (key == k) = false := by simpa using Ne.symm same
      simp [same, passed]

theorem get?_ofList (pairs : List (String × α)) (key : String) :
    (ofList pairs).get? key = pairs.reverse.lookup key :=
  (get?_merge empty pairs key).trans Option.or_none

theorem mem_keys_ofList {pairs : List (String × α)} {key : String} :
    key ∈ (ofList pairs).keys ↔ key ∈ pairs.map Prod.fst := by
  rw [← has_iff, has, get?_ofList, List.lookup_isSome_iff]
  simp only [List.mem_reverse, beq_iff_eq, List.mem_map]
  exact exists_congr fun pair => and_congr_right fun _ => eq_comm

/-- A map of the values of some names, as far as they have any. -/
theorem get?_ofList_filterMap (value? : String → Option α) (names : List String) (key : String) :
    (ofList (names.filterMap fun name => (value? name).map fun value => (name, value))).get? key =
      if key ∈ names then value? key else none := by
  have found (names : List String) :
      (names.filterMap fun name => (value? name).map fun value => (name, value)).lookup key =
        if key ∈ names then value? key else none := by
    induction names with
    | nil => rfl
    | cons name names ih =>
      by_cases same : key = name
      · subst same
        cases known : value? key with
        | none => simpa [known] using ih
        | some value => simp [known]
      · have passed : (key == name) = false := by simpa using same
        cases known : value? name with
        | none => simpa [known, same] using ih
        | some value => simpa [known, same, List.lookup_cons, passed] using ih
  rw [get?_ofList, ← List.filterMap_reverse, found]
  exact if_congr List.mem_reverse rfl rfl

theorem merge_insert_comm {right : Fields α} {key : String} (untouched : key ∉ right.keys) (left : Fields α)
    (value : α) : (left.insert key value).merge right = (left.merge right).insert key value := by
  induction right generalizing left with
  | nil => rfl
  | cons entry rest ih =>
    obtain ⟨k, v⟩ := entry
    obtain ⟨different, untouched⟩ : key ≠ k ∧ key ∉ keys rest := by simpa [keys] using untouched
    calc (left.insert key value).merge ((k, v) :: rest)
        = ((left.insert key value).insert k v).merge rest := rfl
      _ = ((left.insert k v).insert key value).merge rest := by rw [insert_comm different]
      _ = (left.merge ((k, v) :: rest)).insert key value := ih untouched (left.insert k v)

theorem merge_insert_of_mem {right : Fields α} {key : String} (overwritten : key ∈ right.keys) (left : Fields α)
    (value : α) : (left.insert key value).merge right = left.merge right := by
  induction right generalizing left with
  | nil => cases overwritten
  | cons entry rest ih =>
    obtain ⟨k, v⟩ := entry
    change ((left.insert key value).insert k v).merge rest = (left.insert k v).merge rest
    by_cases same : key = k
    · rw [same, insert_insert]
    · rw [insert_comm same]
      refine ih ?_ (left.insert k v)
      simpa [keys, same] using overwritten

/-- The entry would change nothing. -/
def Holds (fields : Fields α) (key : String) (value : α) : Prop := fields.insert key value = fields

namespace Holds

theorem insert_self (fields : Fields α) (key : String) (value : α) : (fields.insert key value).Holds key value :=
  insert_insert fields key value value

theorem insert {fields : Fields α} {key other : String} {value another : α} (holds : fields.Holds key value)
    (different : other ≠ key) : (fields.insert other another).Holds key value := by
  unfold Holds
  rw [insert_comm different, holds]

end Holds

theorem merge_eq_self {left right : Fields α} (holds : ∀ entry ∈ right, left.Holds entry.1 entry.2) :
    left.merge right = left := by
  induction right with
  | nil => rfl
  | cons entry rest ih =>
    calc left.merge (entry :: rest) = (left.insert entry.1 entry.2).merge rest := rfl
      _ = left.merge rest := by rw [holds entry List.mem_cons_self]
      _ = left := ih fun later member => holds later (List.mem_cons_of_mem entry member)

/-- Entries with increasing keys, so that no key has two of them. -/
def Ordered (fields : Fields α) : Prop := fields.Pairwise fun first second => first.1 < second.1

theorem Ordered.insert {fields : Fields α} (ordered : fields.Ordered) (key : String) (value : α) :
    (fields.insert key value).Ordered := by
  induction fields with
  | nil => exact List.pairwise_singleton _ _
  | cons entry rest ih =>
    obtain ⟨k, v⟩ := entry
    obtain ⟨before, later⟩ := List.pairwise_cons.mp ordered
    unfold Fields.insert
    split
    next same =>
      subst same
      exact List.pairwise_cons.mpr ⟨before, later⟩
    next different =>
      split
      next less =>
        refine List.pairwise_cons.mpr ⟨?_, ordered⟩
        intro other member
        rcases List.mem_cons.mp member with rfl | member
        · exact less
        · exact String.lt_trans less (before other member)
      next notLess =>
        refine List.pairwise_cons.mpr ⟨?_, ih later⟩
        intro other member
        have known : (Fields.insert rest key value).has other.1 = true := (has_iff _ _).mpr (List.mem_map_of_mem member)
        rw [has_insert, Bool.or_eq_true, decide_eq_true_eq, has_iff] at known
        rcases known with same | known
        · rw [← same]
          exact Std.lt_of_le_of_ne notLess different
        · obtain ⟨entry, inside, same⟩ := List.mem_map.mp known
          rw [← same]
          exact before entry inside

end PromptKernel.Fields
