import Mathlib.Data.List.Forall2
import Mathlib.Data.Option.Basic

/-! Going through a list with a function that may fail. It succeeds where every item does, with the results in the
order of the items, and fails for the first item that fails. -/

namespace PromptKernel

section
variable {f : α → Except ε β}

theorem mapM_eq_ok_iff {items : List α} {results : List β} : items.mapM f = .ok results ↔
    List.Forall₂ (fun item result => f item = .ok result) items results := by
  induction items generalizing results with
  | nil => simp [pure, Except.pure, eq_comm]
  | cons item items ih =>
    rw [List.mapM_cons, List.forall₂_cons_left_iff]
    cases made : f item with
    | error error => simp [bind, Except.bind]
    | ok result =>
      cases rest : items.mapM f with
      | error error =>
        have unmade (results : List β) : ¬List.Forall₂ (fun item result => f item = .ok result) items results := by
          rw [← ih, rest]
          exact nofun
        simp [bind, Except.bind, unmade]
      | ok others =>
        have only (results : List β) : List.Forall₂ (fun item result => f item = .ok result) items results ↔
            others = results := by
          rw [← ih, rest, Except.ok.injEq]
        simp [bind, Except.bind, pure, Except.pure, only, eq_comm]

/-- The error of the first item that has one. -/
theorem mapM_eq_error_iff {items : List α} {error : ε} : items.mapM f = .error error ↔
    ∃ before item behind, items = before ++ item :: behind ∧
      (∀ earlier ∈ before, ∃ result, f earlier = .ok result) ∧ f item = .error error := by
  induction items with
  | nil => simp [pure, Except.pure]
  | cons item items ih =>
    rw [List.mapM_cons]
    cases made : f item with
    | error first =>
      constructor
      · rintro ⟨⟩
        exact ⟨[], item, items, rfl, nofun, made⟩
      · rintro ⟨_ | ⟨earlier, before⟩, other, behind, split, passed, failed⟩
        · cases split
          obtain rfl := Except.error.inj (made.symm.trans failed)
          rfl
        · cases split
          obtain ⟨result, fine⟩ := passed _ List.mem_cons_self
          exact absurd (made.symm.trans fine) nofun
    | ok result =>
      have rest : (Except.ok result >>= fun result => items.mapM f >>= fun results => pure (result :: results)) =
          .error error ↔ items.mapM f = .error error := by
        cases items.mapM f <;> simp [bind, Except.bind, pure, Except.pure]
      rw [rest, ih]
      constructor
      · rintro ⟨before, other, behind, rfl, passed, failed⟩
        exact ⟨item :: before, other, behind, rfl, List.forall_mem_cons.mpr ⟨⟨result, made⟩, passed⟩, failed⟩
      · rintro ⟨_ | ⟨earlier, before⟩, other, behind, split, passed, failed⟩
        · cases split
          exact absurd (made.symm.trans failed) nofun
        · cases split
          exact ⟨before, other, behind, rfl, (List.forall_mem_cons.mp passed).2, failed⟩

theorem exists_mapM_iff {items : List α} :
    (∃ results, items.mapM f = .ok results) ↔ ∀ item ∈ items, ∃ result, f item = .ok result := by
  constructor
  · rintro ⟨results, made⟩
    have each := mapM_eq_ok_iff.mp made
    clear made
    induction each with
    | nil => exact nofun
    | cons first _ ih => exact List.forall_mem_cons.mpr ⟨⟨_, first⟩, ih⟩
  · intro fine
    cases made : items.mapM f with
    | ok results => exact ⟨results, rfl⟩
    | error error =>
      obtain ⟨before, item, behind, rfl, -, failed⟩ := mapM_eq_error_iff.mp made
      obtain ⟨result, other⟩ := fine item (by simp)
      exact absurd (failed.symm.trans other) nofun

end

theorem mapM_eq_some_iff {f : α → Option β} {items : List α} {results : List β} : items.mapM f = some results ↔
    List.Forall₂ (fun item result => f item = some result) items results := by
  induction items generalizing results with
  | nil => simp [eq_comm]
  | cons item items ih =>
    rw [List.mapM_cons, List.forall₂_cons_left_iff]
    simp [Option.bind_eq_some_iff, ih, @eq_comm _ results]

theorem forall₂_congr_mem {R S : α → β → Prop} {items : List α} {results : List β}
    (each : ∀ item ∈ items, ∀ result, R item result ↔ S item result) :
    List.Forall₂ R items results ↔ List.Forall₂ S items results := by
  induction items generalizing results with
  | nil => simp
  | cons item items ih =>
    obtain ⟨first, later⟩ := List.forall_mem_cons.mp each
    simp only [List.forall₂_cons_left_iff, first, ih later]

end PromptKernel
