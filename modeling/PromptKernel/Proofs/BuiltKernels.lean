import PromptKernel.Kernel.Builder

/-! Kernels that were built. Their functions are those of the builder, no two of one group and name,
so looking up a function by its group and name finds the function itself. -/

namespace PromptKernel

theorem Builder.duplicate?_eq_none_iff (seen : List FunctionRef) (functions : List Function) :
    duplicate? seen functions = none ↔
      (functions.map Function.ref).Nodup ∧ ∀ function ∈ functions, function.ref ∉ seen := by
  induction functions generalizing seen with
  | nil => simp [duplicate?]
  | cons first rest ih =>
    by_cases repeated : first.ref ∈ seen
    · have found : duplicate? seen (first :: rest) = some first.ref := by simp [duplicate?, repeated]
      rw [found]
      exact ⟨nofun, fun ⟨_, unseen⟩ => absurd repeated (unseen first List.mem_cons_self)⟩
    · have skipped : duplicate? seen (first :: rest) = duplicate? (first.ref :: seen) rest := by
        simp [duplicate?, repeated]
      rw [skipped, ih, List.map_cons, List.nodup_cons]
      constructor
      · rintro ⟨distinct, fresh⟩
        refine ⟨⟨?_, distinct⟩, ?_⟩
        · intro again
          obtain ⟨function, member, same⟩ := List.mem_map.mp again
          exact fresh function member (same ▸ List.mem_cons_self)
        · rintro function (_ | ⟨_, member⟩)
          · exact repeated
          · exact fun earlier => fresh function member (List.mem_cons_of_mem _ earlier)
      · rintro ⟨⟨unlike, distinct⟩, unseen⟩
        refine ⟨distinct, fun function member earlier => ?_⟩
        rcases List.mem_cons.mp earlier with same | earlier
        · exact unlike (List.mem_map.mpr ⟨function, member, same⟩)
        · exact unseen function (List.mem_cons_of_mem first member) earlier

/-- The functions stay in the order in which they were added. -/
theorem Builder.functions_of_build {builder : Builder} {kernel : Kernel} (built : builder.build = .ok kernel) :
    kernel.functions = builder.functions ∧ (kernel.functions.map Function.ref).Nodup := by
  unfold build at built
  split at built
  · cases built
  next unrepeated =>
    split at built
    · cases built
    · obtain ⟨distinct, -⟩ := (duplicate?_eq_none_iff [] builder.functions).mp unrepeated
      cases chosen : builder.defaultPosition with
      | error error => rw [chosen] at built; cases built
      | ok position => rw [chosen] at built; cases built; exact ⟨rfl, distinct⟩

/-- Where items have keys of their own, an item is found by its key. -/
theorem find?_key_eq_some_iff [BEq β] [LawfulBEq β] {key : α → β} {items : List α} {sought : β}
    (distinct : (items.map key).Nodup) {item : α} :
    (items.find? fun item => key item == sought) = some item ↔ item ∈ items ∧ key item = sought := by
  constructor
  · intro found
    exact ⟨List.mem_of_find?_eq_some found, by simpa using List.find?_some found⟩
  · rintro ⟨member, rfl⟩
    induction items with
    | nil => cases member
    | cons first rest ih =>
      rw [List.map_cons, List.nodup_cons] at distinct
      rcases List.mem_cons.mp member with rfl | later
      · exact List.find?_cons_of_pos (beq_self_eq_true _)
      · have unlike : key first ≠ key item := fun same => distinct.1 (same ▸ List.mem_map_of_mem later)
        rw [List.find?_cons_of_neg (by simpa using unlike)]
        exact ih distinct.2 later

namespace Kernel
variable {kernel : Kernel}

theorem mem_of_function {ref : FunctionRef} {function : Function}
    (found : kernel.function ref = .ok function) : function ∈ kernel.functions := by
  unfold Kernel.function at found
  split at found <;> cases found
  next same => exact List.mem_of_find?_eq_some same

theorem function_eq_ok_iff (distinct : (kernel.functions.map Function.ref).Nodup) {ref : FunctionRef}
    {function : Function} :
    kernel.function ref = .ok function ↔ function ∈ kernel.functions ∧ function.ref = ref := by
  rw [← find?_key_eq_some_iff distinct]
  unfold Kernel.function function?
  split
  next other found => rw [found, Except.ok.injEq, Option.some.injEq]
  next missing => rw [missing]; simp

theorem function_eq_error_iff {ref : FunctionRef} {error : Error} : kernel.function ref = .error error ↔
    ref ∉ kernel.functions.map Function.ref ∧ error = .functionNotFound ref.group ref.name := by
  unfold Kernel.function
  cases found : kernel.function? ref with
  | none =>
    have absent : ref ∉ kernel.functions.map Function.ref := by simpa [function?] using found
    simp [absent, eq_comm]
  | some function =>
    have present : ref ∈ kernel.functions.map Function.ref :=
      List.mem_map.mpr ⟨function, List.mem_of_find?_eq_some found, by simpa using List.find?_some found⟩
    simp [present]

theorem function_of_mem (distinct : (kernel.functions.map Function.ref).Nodup) {function : Function}
    (member : function ∈ kernel.functions) : kernel.function function.ref = .ok function :=
  (function_eq_ok_iff distinct).mpr ⟨member, rfl⟩

end Kernel

end PromptKernel
