import Mathlib.Data.List.Find
import PromptKernel.Proofs.ArgumentBinding
import PromptKernel.Run

/-! Variables with one more among them. A run ignores the variable if it does the same with it and
without it, and leaves it as it is. What a run assigns is kept count of as well, since some of what
goes on at the same time relies on variables that stay the same. -/

namespace PromptKernel

/-- The wider map has one name more, and is otherwise the same. -/
structure Fields.Widens (name : String) (value : α) (fields wider : Fields α) : Prop where
  unbound : fields.get? name = none
  bound : wider.get? name = some value
  same : ∀ other, other ≠ name → wider.get? other = fields.get? other

/-- Only names that are free to change are bound otherwise afterwards. -/
def Fields.AgreeOutside (free : String → Prop) (before after : Fields α) : Prop :=
  ∀ name, ¬ free name → after.get? name = before.get? name

namespace Fields

theorem Widens.of_insert {name : String} {fields : Fields α} (unbound : fields.get? name = none) (value : α) :
    Widens name value fields (fields.insert name value) where
  unbound := unbound
  bound := get?_insert_self fields name value
  same _ different := get?_insert_of_ne (Ne.symm different) fields value

namespace Widens
variable {name : String} {value : α} {fields wider : Fields α} (widens : Widens name value fields wider)
include widens

theorem has {other : String} (different : other ≠ name) : wider.has other = fields.has other := by
  unfold Fields.has
  rw [widens.same other different]

theorem insert {other : String} (different : other ≠ name) (item : α) :
    Widens name value (fields.insert other item) (wider.insert other item) where
  unbound := by rw [get?_insert_of_ne different, widens.unbound]
  bound := by rw [get?_insert_of_ne different, widens.bound]
  same key apart := by
    rw [get?_insert, get?_insert, widens.same key apart]

theorem erase {other : String} (different : other ≠ name) :
    Widens name value (fields.erase other) (wider.erase other) where
  unbound := by rw [get?_erase, if_neg different, widens.unbound]
  bound := by rw [get?_erase, if_neg different, widens.bound]
  same key apart := by
    rw [get?_erase, get?_erase, widens.same key apart]

theorem merge {right : Fields α} (apart : name ∉ right.keys) :
    Widens name value (fields.merge right) (wider.merge right) := by
  induction right generalizing fields wider with
  | nil => exact widens
  | cons entry rest ih =>
    obtain ⟨different, apart⟩ : name ≠ entry.1 ∧ name ∉ keys rest := by simpa [keys] using apart
    exact ih (widens.insert (Ne.symm different) entry.2) apart

/-- Nothing but the one name tells the wider map from the other with the value put in. -/
theorem get?_eq_insert (key : String) : wider.get? key = (fields.insert name value).get? key := by
  by_cases same : name = key
  · rw [← same, widens.bound, get?_insert_self]
  · rw [widens.same key (Ne.symm same), get?_insert_of_ne same]

end Widens

namespace AgreeOutside
variable {free : String → Prop} {before middle after : Fields α}

theorem refl (free : String → Prop) (fields : Fields α) : AgreeOutside free fields fields := fun _ _ => rfl

theorem trans (first : AgreeOutside free before middle) (second : AgreeOutside free middle after) :
    AgreeOutside free before after :=
  fun name fixed => (second name fixed).trans (first name fixed)

theorem mono {more : String → Prop} (agree : AgreeOutside free before after) (weaker : ∀ name, free name → more name) :
    AgreeOutside more before after :=
  fun name fixed => agree name fun member => fixed (weaker name member)

theorem of_insert {name : String} (member : free name) (fields : Fields α) (value : α) :
    AgreeOutside free fields (fields.insert name value) :=
  fun other fixed => get?_insert_of_ne (fun same : name = other => fixed (same ▸ member)) fields value

theorem of_erase {name : String} (member : free name) (fields : Fields α) :
    AgreeOutside free fields (fields.erase name) := by
  intro other fixed
  rw [get?_erase, if_neg fun same : name = other => fixed (same ▸ member)]

end AgreeOutside

end Fields

/-! Parameters. -/

/-- A name that is not the one variable, and that may be assigned. -/
structure Assignable (name : String) (free : String → Prop) (other : String) : Prop where
  apart : other ≠ name
  free : free other

section
variable {name : String} {value : Json} {free : String → Prop} {bindings wider : Fields Json}

namespace Parameter

theorem isSupplied_widens {parameter : Parameter} (apart : parameter.name ≠ name)
    (widens : bindings.Widens name value wider) (arguments : Option (Fields Json)) :
    parameter.isSupplied arguments wider = parameter.isSupplied arguments bindings := by
  cases arguments with
  | none =>
    unfold isSupplied
    dsimp only
    rw [widens.has apart]
  | some arguments => rfl

theorem bind_widens {parameter : Parameter} (assignable : Assignable name free parameter.name)
    (arguments : Option (Fields Json)) (widens : bindings.Widens name value wider) :
    (parameter.bind arguments bindings).Widens name value (parameter.bind arguments wider) ∧
      Fields.AgreeOutside free bindings (parameter.bind arguments bindings) := by
  unfold bind
  rw [widens.has assignable.apart]
  split
  · exact ⟨widens.insert assignable.apart _, .of_insert assignable.free _ _⟩
  · split
    · exact ⟨widens, .refl free bindings⟩
    · split
      · exact ⟨widens.insert assignable.apart _, .of_insert assignable.free _ _⟩
      · exact ⟨widens, .refl free bindings⟩

theorem bindAll_widens {parameters : List Parameter}
    (assignable : ∀ parameter ∈ parameters, Assignable name free parameter.name)
    (arguments : Option (Fields Json)) (widens : bindings.Widens name value wider) :
    (bindAll parameters arguments bindings).Widens name value (bindAll parameters arguments wider) ∧
      Fields.AgreeOutside free bindings (bindAll parameters arguments bindings) := by
  induction parameters generalizing bindings wider with
  | nil => exact ⟨widens, .refl free bindings⟩
  | cons parameter parameters ih =>
    have first := bind_widens (assignable parameter List.mem_cons_self) arguments widens
    have rest := ih (fun parameter member => assignable parameter (List.mem_cons_of_mem _ member)) first.1
    exact ⟨rest.1, first.2.trans rest.2⟩

end Parameter

namespace Definition

/-- No parameter that callers supply has the name of the one variable, and all may be assigned. -/
def Binds (definition : Definition) (name : String) (free : String → Prop) : Prop :=
  ∀ parameter ∈ definition.ownParameters, Assignable name free parameter.name

variable {definition : Definition} (binds : definition.Binds name free)
include binds

theorem missing?_widens (arguments : Option (Fields Json)) (widens : bindings.Widens name value wider) :
    definition.missing? arguments wider = definition.missing? arguments bindings := by
  unfold missing?
  refine List.find?_congr fun parameter member => ?_
  rw [Parameter.isSupplied_widens (binds parameter member).apart widens]

/-- Binding the parameters is refused with the one variable if it is without it. -/
theorem bind_widens (arguments : Option (Fields Json)) (widens : bindings.Widens name value wider) :
    (∃ error, definition.bind arguments bindings = .error error ∧ definition.bind arguments wider = .error error) ∨
      ∃ bound more, definition.bind arguments bindings = .ok bound ∧ definition.bind arguments wider = .ok more ∧
        bound.Widens name value more ∧ Fields.AgreeOutside free bindings bound := by
  unfold bind
  rw [missing?_widens binds arguments widens]
  cases definition.missing? arguments bindings with
  | some parameter => exact .inl ⟨_, rfl, rfl⟩
  | none =>
    have bound := Parameter.bindAll_widens binds arguments widens
    exact .inr ⟨_, _, rfl, rfl, bound.1, bound.2⟩

theorem boundArguments_widens (widens : bindings.Widens name value wider) :
    definition.boundArguments wider = definition.boundArguments bindings := by
  unfold boundArguments
  refine congrArg Fields.ofList (List.filterMap_congr fun parameter member => ?_)
  rw [widens.same _ (binds parameter member).apart]

end Definition

end

/-! Runs. -/

/-- The wider state has one variable more. -/
structure State.Widens (name : String) (value : Json) (state wider : State) : Prop where
  bindings : state.bindings.Widens name value wider.bindings
  cancelled : wider.cancelled = state.cancelled
  completions : wider.completions = state.completions
  arrived : wider.arrived = state.arrived

/-- Two runs from the two states come to the same, but for the one variable. -/
structure Run.Parallel (name : String) (value : Json) (free : String → Prop) (run : Run α) (state wider : State) :
    Prop where
  outcome : (run wider).1 = (run state).1
  widens : (run state).2.Widens name value (run wider).2
  kept : Fields.AgreeOutside free state.bindings (run state).2.bindings

/-- The run does not depend on the one variable and leaves it as it is, and it assigns no names but
those that are free. -/
def Run.Ignores (name : String) (value : Json) (free : String → Prop) (run : Run α) : Prop :=
  ∀ state wider, state.Widens name value wider → run.Parallel name value free state wider

namespace Run.Ignores
variable {name : String} {value : Json} {free : String → Prop}

theorem pure (result : α) : Ignores name value free (pure result : Run α) :=
  fun state _ widens => ⟨rfl, widens, .refl free state.bindings⟩

theorem fail (error : Error) : Ignores name value free (throw error : Run α) :=
  fun state _ widens => ⟨rfl, widens, .refl free state.bindings⟩

theorem ofExcept (outcome : Except Error α) : Ignores name value free (Run.ofExcept outcome) := by
  intro state wider widens
  refine ⟨?_, ?_, ?_⟩ <;> simp only [ofExcept_apply]
  · exact widens
  · exact .refl free state.bindings

theorem bind {run : Run α} {next : α → Run β} (first : run.Ignores name value free)
    (rest : ∀ result, (next result).Ignores name value free) : (run >>= next).Ignores name value free := by
  intro state wider widens
  obtain ⟨same, after, kept⟩ := first state wider widens
  rcases ran : run state with ⟨outcome, middle⟩
  rcases ranWider : run wider with ⟨other, further⟩
  simp only [ran, ranWider] at same after kept
  subst same
  cases other with
  | error error =>
    refine ⟨?_, ?_, ?_⟩ <;> simp only [bind_apply, ran, ranWider]
    · exact after
    · exact kept
  | ok result =>
    obtain ⟨same, final, agree⟩ := rest result middle further after
    refine ⟨?_, ?_, ?_⟩ <;> simp only [bind_apply, ran, ranWider]
    · exact same
    · exact final
    · exact kept.trans agree

/-- What comes after an outcome may rely on it. -/
theorem ofExcept_bind {outcome : Except Error α} {next : α → Run β}
    (rest : ∀ result, outcome = .ok result → (next result).Ignores name value free) :
    (Run.ofExcept outcome >>= next).Ignores name value free := by
  cases outcome with
  | error error => exact fail error
  | ok result => exact rest result rfl

theorem mono {run : Run α} {more : String → Prop} (ignores : run.Ignores name value free)
    (weaker : ∀ other, free other → more other) : run.Ignores name value more := by
  intro state wider widens
  obtain ⟨same, after, kept⟩ := ignores state wider widens
  exact ⟨same, after, kept.mono weaker⟩

theorem lookup {other : String} (apart : other ≠ name) : (Run.lookup other).Ignores name value free :=
  fun state _ widens =>
    ⟨congrArg Except.ok (widens.bindings.same other apart), widens, .refl free state.bindings⟩

theorem insert {other : String} (assignable : Assignable name free other) (item : Json) :
    (Run.insert other item).Ignores name value free :=
  fun state _ widens =>
    ⟨rfl, { widens with bindings := widens.bindings.insert assignable.apart item },
      .of_insert assignable.free state.bindings item⟩

theorem erase {other : String} (assignable : Assignable name free other) :
    (Run.erase other).Ignores name value free :=
  fun state _ widens =>
    ⟨rfl, { widens with bindings := widens.bindings.erase assignable.apart },
      .of_erase assignable.free state.bindings⟩

theorem isCancelled : Run.isCancelled.Ignores name value free :=
  fun state _ widens => ⟨congrArg Except.ok widens.cancelled, widens, .refl free state.bindings⟩

theorem checkCancelled : Run.checkCancelled.Ignores name value free := by
  refine bind isCancelled fun cancelled => ?_
  cases cancelled with
  | false => exact pure ()
  | true => exact fail .cancelled

theorem cancel : Run.cancel.Ignores name value free :=
  fun state _ widens => ⟨rfl, { widens with cancelled := rfl }, .refl free state.bindings⟩

theorem attempt {run : Run α} (ignores : run.Ignores name value free) : (Run.attempt run).Ignores name value free := by
  intro state wider widens
  obtain ⟨same, after, kept⟩ := ignores state wider widens
  exact ⟨congrArg Except.ok same, after, kept⟩

theorem within {run : Run α} (ignores : run.Ignores name value free) (group function : String) :
    (Run.within group function run).Ignores name value free := by
  intro state wider widens
  obtain ⟨same, after, kept⟩ := ignores state wider widens
  refine ⟨?_, ?_, ?_⟩ <;> simp only [within_apply, same]
  · exact after
  · exact kept

/-- What a fork assigns is forgotten. -/
theorem forked {run : Run α} {more : String → Prop} (ignores : run.Ignores name value more) :
    (Run.forked run).Ignores name value free := by
  intro state wider widens
  obtain ⟨same, after, -⟩ := ignores state wider widens
  exact ⟨same, { after with bindings := widens.bindings }, .refl free state.bindings⟩

theorem complete (service : Service) (completion : Completion) :
    (Run.complete service completion).Ignores name value free := by
  intro state wider widens
  refine ⟨?_, ?_, ?_⟩ <;> simp only [complete_apply, widens.completions, widens.arrived]
  · exact { widens with completions := rfl, arrived := rfl }
  · exact .refl free state.bindings

/-- What reads all variables may still come to the same. -/
theorem bindings {next : Fields Json → Run α}
    (same : ∀ bindings wider, bindings.Widens name value wider → next wider = next bindings)
    (ignores : ∀ bindings, (next bindings).Ignores name value free) :
    (Run.bindings >>= next).Ignores name value free := by
  intro state wider widens
  have parallel := ignores state.bindings state wider widens
  refine ⟨?_, ?_, ?_⟩ <;> simp only [bind_apply, bindings_apply, same _ _ widens.bindings]
  · exact parallel.outcome
  · exact parallel.widens
  · exact parallel.kept

end Run.Ignores

end PromptKernel
