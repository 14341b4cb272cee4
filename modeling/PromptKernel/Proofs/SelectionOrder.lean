import Mathlib.Data.Prod.Lex
import Mathlib.Order.Bounds.Basic
import PromptKernel.Proofs.TemplateCalls

/-! The order of preference among services. The pairs of a rule and a service that go together are ordered by
the rule first and by the service second, and the least pair wins. The default service stands in where there
is no such pair. Rules behind one that has found a service make no difference. -/

namespace PromptKernel

/-- The positions of the rules and services that go together. -/
def pairsOf (goes : ρ → σ → Prop) (rules : List ρ) (services : List σ) : Set (Nat ×ₗ Nat) :=
  {pair | ∃ rule service, rules[(ofLex pair).1]? = some rule ∧ services[(ofLex pair).2]? = some service ∧
    goes rule service}

section
variable {goes : ρ → σ → Prop} {rule : ρ} {rules : List ρ} {services : List σ} {i j : Nat}

theorem mem_pairsOf : toLex (i, j) ∈ pairsOf goes rules services ↔
    ∃ rule service, rules[i]? = some rule ∧ services[j]? = some service ∧ goes rule service := Iff.rfl

theorem mem_pairsOf_first : toLex (0, j) ∈ pairsOf goes (rule :: rules) services ↔
    ∃ service, services[j]? = some service ∧ goes rule service := by
  simp [mem_pairsOf]

theorem mem_pairsOf_later : toLex (i + 1, j) ∈ pairsOf goes (rule :: rules) services ↔
    toLex (i, j) ∈ pairsOf goes rules services := by
  simp [mem_pairsOf]

/-- The first of several rules only goes with services that it is before all others for. -/
theorem isLeast_pairsOf_first {service : σ} (found : services[j]? = some service) (fits : goes rule service)
    (earlier : ∀ k < j, ∀ other, services[k]? = some other → ¬goes rule other) :
    IsLeast (pairsOf goes (rule :: rules) services) (toLex (0, j)) := by
  refine ⟨mem_pairsOf_first.mpr ⟨service, found, fits⟩, ?_⟩
  rintro ⟨k, l⟩ member
  apply Prod.Lex.toLex_le_toLex.mpr
  cases k with
  | succ k => exact Or.inl (Nat.succ_pos k)
  | zero =>
    obtain ⟨other, there, goesToo⟩ := mem_pairsOf_first.mp member
    refine Or.inr ⟨rfl, ?_⟩
    by_contra before
    exact earlier l (Nat.lt_of_not_le before) other there goesToo

theorem isLeast_pairsOf_later (unfit : ∀ service ∈ services, ¬goes rule service)
    (least : IsLeast (pairsOf goes rules services) (toLex (i, j))) :
    IsLeast (pairsOf goes (rule :: rules) services) (toLex (i + 1, j)) := by
  refine ⟨mem_pairsOf_later.mpr least.1, ?_⟩
  rintro ⟨k, l⟩ member
  apply Prod.Lex.toLex_le_toLex.mpr
  cases k with
  | zero =>
    obtain ⟨service, there, fits⟩ := mem_pairsOf_first.mp member
    exact absurd fits (unfit service (List.mem_of_getElem? there))
  | succ k =>
    rcases Prod.Lex.toLex_le_toLex.mp (least.2 (mem_pairsOf_later.mp member)) with less | ⟨same, below⟩
    · exact Or.inl (Nat.succ_lt_succ less)
    · exact Or.inr ⟨congrArg Nat.succ same, below⟩

theorem pairsOf_cons_eq_empty_iff : pairsOf goes (rule :: rules) services = ∅ ↔
    (∀ service ∈ services, ¬goes rule service) ∧ pairsOf goes rules services = ∅ := by
  simp only [Set.eq_empty_iff_forall_notMem]
  constructor
  · intro none
    refine ⟨?_, fun pair member => none (toLex ((ofLex pair).1 + 1, (ofLex pair).2)) (mem_pairsOf_later.mpr member)⟩
    intro service member fits
    obtain ⟨j, there⟩ := List.mem_iff_getElem?.mp member
    exact none (toLex (0, j)) (mem_pairsOf_first.mpr ⟨service, there, fits⟩)
  · rintro ⟨unfit, none⟩ ⟨k, l⟩ member
    cases k with
    | zero =>
      obtain ⟨service, there, fits⟩ := mem_pairsOf_first.mp member
      exact unfit service (List.mem_of_getElem? there) fits
    | succ k => exact none (toLex (k, l)) (mem_pairsOf_later.mp member)

end

section
variable {accepts : ρ → σ → Bool} {rules : List ρ} {services : List σ}

/-- The search finds the least pair, and fails where there is none. -/
theorem firstPair?_spec (accepts : ρ → σ → Bool) (rules : List ρ) (services : List σ) :
    let pairs := pairsOf (fun rule service => accepts rule service = true) rules services
    match firstPair? accepts rules services with
    | some pair => IsLeast pairs (toLex pair)
    | none => pairs = ∅ := by
  intro pairs
  induction rules with
  | nil => exact Set.eq_empty_of_forall_notMem fun pair ⟨rule, _, found, _⟩ => by cases found
  | cons rule rules ih =>
    rw [firstPair?]
    cases found : services.findIdx? (accepts rule) with
    | some j =>
      obtain ⟨inside, fits, earlier⟩ := List.findIdx?_eq_some_iff_getElem.mp found
      refine isLeast_pairsOf_first (List.getElem?_eq_getElem inside) fits ?_
      intro k before other there
      obtain ⟨_, rfl⟩ := List.getElem?_eq_some_iff.mp there
      exact earlier k before
    | none =>
      -- This rule has no pairs, and those of the others each come one rule further down.
      have unfit : ∀ service ∈ services, ¬accepts rule service = true := by
        simpa using found
      dsimp only
      cases rest : firstPair? accepts rules services with
      | none => rw [rest] at ih; exact pairsOf_cons_eq_empty_iff.mpr ⟨unfit, ih⟩
      | some pair => rw [rest] at ih; exact isLeast_pairsOf_later unfit ih

theorem firstPair?_eq_some_iff {i j : Nat} : firstPair? accepts rules services = some (i, j) ↔
    IsLeast (pairsOf (fun rule service => accepts rule service = true) rules services) (toLex (i, j)) := by
  have spec := firstPair?_spec accepts rules services
  constructor
  · intro found
    rw [found] at spec
    exact spec
  · intro least
    cases found : firstPair? accepts rules services with
    | none =>
      rw [found] at spec
      exact absurd least.1 (Set.eq_empty_iff_forall_notMem.mp spec _)
    | some pair =>
      rw [found] at spec
      exact congrArg some (toLex.injective (IsLeast.unique spec least))

theorem firstPair?_eq_none_iff : firstPair? accepts rules services = none ↔
    pairsOf (fun rule service => accepts rule service = true) rules services = ∅ := by
  have spec := firstPair?_spec accepts rules services
  cases found : firstPair? accepts rules services with
  | none => rw [found] at spec; exact iff_of_true rfl spec
  | some pair =>
    rw [found] at spec
    exact iff_of_false nofun (Set.nonempty_iff_ne_empty.mp ⟨_, spec.1⟩)

theorem firstPair?_append (accepts : ρ → σ → Bool) (first later : List ρ) (services : List σ) :
    firstPair? accepts (first ++ later) services = (firstPair? accepts first services).or
      ((firstPair? accepts later services).map fun (i, j) => (first.length + i, j)) := by
  induction first with
  | nil =>
    change firstPair? accepts later services = (firstPair? accepts later services).map fun (i, j) => (0 + i, j)
    cases firstPair? accepts later services <;> simp
  | cons rule rules ih =>
    rw [List.cons_append, firstPair?, firstPair?]
    cases services.findIdx? (accepts rule) with
    | some j => rfl
    | none =>
      dsimp only
      rw [ih]
      rcases firstPair? accepts rules services with _ | pair
      · rcases firstPair? accepts later services with _ | pair
        · rfl
        · simp only [Option.map_some, Option.map_none, Option.none_or, List.length_cons, Nat.add_right_comm]
      · rfl

variable {standard : Option Nat} {i j : Nat}

theorem select?_eq_rule_iff : select? accepts rules services standard = some ⟨j, some i⟩ ↔
    IsLeast (pairsOf (fun rule service => accepts rule service = true) rules services) (toLex (i, j)) := by
  rw [← firstPair?_eq_some_iff, select?]
  cases firstPair? accepts rules services with
  | none => simp
  | some pair => simp [Prod.ext_iff, and_comm]

theorem select?_eq_standard_iff : select? accepts rules services standard = some ⟨j, none⟩ ↔
    pairsOf (fun rule service => accepts rule service = true) rules services = ∅ ∧ standard = some j := by
  rw [← firstPair?_eq_none_iff, select?]
  cases firstPair? accepts rules services <;> simp

theorem select?_eq_none_iff : select? accepts rules services standard = none ↔
    pairsOf (fun rule service => accepts rule service = true) rules services = ∅ ∧ standard = none := by
  rw [← firstPair?_eq_none_iff, select?]
  cases firstPair? accepts rules services <;> simp

theorem select?_append
    (served : (pairsOf (fun rule service => accepts rule service = true) rules services).Nonempty) (later : List ρ) :
    select? accepts (rules ++ later) services standard = select? accepts rules services standard := by
  rw [select?, select?, firstPair?_append]
  cases found : firstPair? accepts rules services with
  | none => exact absurd (firstPair?_eq_none_iff.mp found) served.ne_empty
  | some pair => rfl

/-- A rule that is for some service leaves nothing for the rules behind it. -/
theorem select?_of_accepts {before behind : List ρ} {rule : ρ} {service : σ} (member : service ∈ services)
    (accepted : accepts rule service = true) :
    select? accepts (before ++ rule :: behind) services standard =
        select? accepts (before ++ [rule]) services standard ∧
      ∃ i j, i ≤ before.length ∧
        select? accepts (before ++ rule :: behind) services standard = some ⟨j, some i⟩ := by
  obtain ⟨j, there⟩ := List.mem_iff_getElem?.mp member
  let pairs := pairsOf (fun rule service => accepts rule service = true) (before ++ [rule]) services
  have pair : toLex (before.length, j) ∈ pairs := mem_pairsOf.mpr ⟨rule, service, by simp, there, accepted⟩
  have shortened : select? accepts (before ++ rule :: behind) services standard =
      select? accepts (before ++ [rule]) services standard := by
    rw [List.append_cons]
    exact select?_append ⟨_, pair⟩ behind
  refine ⟨shortened, ?_⟩
  rw [shortened]
  rcases found : select? accepts (before ++ [rule]) services standard with _ | ⟨k, _ | i⟩
  · exact absurd (select?_eq_none_iff.mp found).1 (Set.nonempty_iff_ne_empty.mp ⟨_, pair⟩)
  · exact absurd (select?_eq_standard_iff.mp found).1 (Set.nonempty_iff_ne_empty.mp ⟨_, pair⟩)
  · have least := select?_eq_rule_iff.mp found
    refine ⟨i, k, ?_, rfl⟩
    rcases Prod.Lex.toLex_le_toLex.mp (least.2 pair) with less | ⟨equal, -⟩
    · exact less.le
    · exact equal.le

end

/-- The rule names the model itself, or its pattern matches the model. -/
def Rule.IsFor (isMatch : Pattern → String → Bool) (rule : Rule) (modelId : String) : Prop :=
  rule.modelId = some modelId ∨ ∃ pattern, rule.pattern = some pattern ∧ isMatch pattern modelId = true

theorem Rule.acceptsBy_iff {isMatch : Pattern → String → Bool} {rule : Rule} {modelId : String} :
    rule.acceptsBy isMatch modelId = true ↔ rule.IsFor isMatch modelId := by
  simp [acceptsBy, IsFor, Option.any_eq_true]

namespace Kernel
variable {kernel : Kernel} {definition : Definition}

/-- The pairs that count for a function. -/
def pairsFor (kernel : Kernel) (definition : Definition) : Set (Nat ×ₗ Nat) :=
  pairsOf (fun rule (service : Service) => rule.IsFor Pattern.isMatch service.modelId) definition.rules kernel.services

theorem pairsFor_eq (kernel : Kernel) (definition : Definition) : kernel.pairsFor definition =
    pairsOf (fun rule (service : Service) => rule.accepts service.modelId = true) definition.rules kernel.services := by
  simp only [pairsFor, Rule.accepts, Rule.acceptsBy_iff]

theorem serviceFor_eq_rule_iff {service : Service} {i j : Nat} :
    kernel.serviceFor definition = .ok (⟨j, some i⟩, service) ↔
      IsLeast (kernel.pairsFor definition) (toLex (i, j)) ∧ kernel.services[j]? = some service := by
  rw [serviceFor_eq_ok_iff, Kernel.select?, select?_eq_rule_iff, pairsFor_eq]

theorem serviceFor_eq_standard_iff {service : Service} {j : Nat} :
    kernel.serviceFor definition = .ok (⟨j, none⟩, service) ↔
      kernel.pairsFor definition = ∅ ∧ kernel.defaultService = some j ∧ kernel.services[j]? = some service := by
  rw [serviceFor_eq_ok_iff, Kernel.select?, select?_eq_standard_iff, pairsFor_eq, and_assoc]

theorem serviceFor_eq_error_iff {error : Error} : kernel.serviceFor definition = .error error ↔
    kernel.pairsFor definition = ∅ ∧ kernel.defaultService.bind (kernel.services[·]?) = none ∧
      error = .noBackendAvailable := by
  rw [pairsFor_eq]
  unfold serviceFor Kernel.select?
  constructor
  · intro refused
    split at refused
    next absent =>
      cases refused
      obtain ⟨unmatched, standard⟩ := select?_eq_none_iff.mp absent
      exact ⟨unmatched, by rw [standard]; rfl, rfl⟩
    next selection chosen =>
      split at refused
      next missing =>
        cases refused
        rcases selection with ⟨j, _ | i⟩
        · obtain ⟨unmatched, standard⟩ := select?_eq_standard_iff.mp chosen
          exact ⟨unmatched, by rw [standard]; exact missing, rfl⟩
        · obtain ⟨⟨_, service, _, there, _⟩, -⟩ := select?_eq_rule_iff.mp chosen
          exact absurd (missing.symm.trans there) nofun
      next => cases refused
  · rintro ⟨unmatched, standard, rfl⟩
    cases chosen : kernel.defaultService with
    | none => rw [select?_eq_none_iff.mpr ⟨unmatched, rfl⟩]
    | some j =>
      rw [chosen] at standard
      rw [select?_eq_standard_iff.mpr ⟨unmatched, rfl⟩]
      change kernel.services[j]? = none at standard
      simp only [standard]

end Kernel

/-- Services are chosen by the least pair, whatever decides which models a pattern matches. The default service
is chosen only where no rule is for any service. Rules behind one that is for some service might as well not be
there, so a pattern comes before the exact names behind it. A kernel chooses in this way for its functions, and
reports that there is no service just when there is neither a pair nor a default. -/
theorem least_pair_selected (isMatch : Pattern → String → Bool) (modelId : σ → String) (services : List σ)
    (standard : Option Nat) :
    let pairs (rules : List Rule) := pairsOf (fun rule service => rule.IsFor isMatch (modelId service)) rules services
    let chosen (rules : List Rule) :=
      select? (fun rule service => rule.acceptsBy isMatch (modelId service)) rules services standard
    (∀ rules i j, chosen rules = some ⟨j, some i⟩ ↔ IsLeast (pairs rules) (toLex (i, j))) ∧
    (∀ rules j, chosen rules = some ⟨j, none⟩ ↔ pairs rules = ∅ ∧ standard = some j) ∧
    (∀ rules, chosen rules = none ↔ pairs rules = ∅ ∧ standard = none) ∧
    (∀ rules later, (pairs rules).Nonempty → chosen (rules ++ later) = chosen rules) ∧
    (∀ before rule pattern behind, rule.pattern = some pattern →
      (∃ service ∈ services, isMatch pattern (modelId service) = true) →
      chosen (before ++ rule :: behind) = chosen (before ++ [rule]) ∧
      ∃ i j, i ≤ before.length ∧ chosen (before ++ rule :: behind) = some ⟨j, some i⟩) ∧
    ∀ (kernel : Kernel) (definition : Definition),
      (∀ i j service, kernel.serviceFor definition = .ok (⟨j, some i⟩, service) ↔
        IsLeast (kernel.pairsFor definition) (toLex (i, j)) ∧ kernel.services[j]? = some service) ∧
      (∀ j service, kernel.serviceFor definition = .ok (⟨j, none⟩, service) ↔
        kernel.pairsFor definition = ∅ ∧ kernel.defaultService = some j ∧ kernel.services[j]? = some service) ∧
      ∀ error, kernel.serviceFor definition = .error error ↔
        kernel.pairsFor definition = ∅ ∧ kernel.defaultService.bind (kernel.services[·]?) = none ∧
          error = .noBackendAvailable := by
  intro pairs chosen
  have same (rules : List Rule) : pairs rules =
      pairsOf (fun rule service => rule.acceptsBy isMatch (modelId service) = true) rules services := by
    simp only [pairs, Rule.acceptsBy_iff]
  refine ⟨?_, ?_, ?_, ?_, ?_, fun kernel definition => ⟨fun i j service => Kernel.serviceFor_eq_rule_iff,
    fun j service => Kernel.serviceFor_eq_standard_iff, fun error => Kernel.serviceFor_eq_error_iff⟩⟩
  · intro rules i j
    rw [same]
    exact select?_eq_rule_iff
  · intro rules j
    rw [same]
    exact select?_eq_standard_iff
  · intro rules
    rw [same]
    exact select?_eq_none_iff
  · intro rules later served
    rw [same] at served
    exact select?_append served later
  · intro before rule pattern behind declared ⟨service, member, matched⟩
    have fits : rule.IsFor isMatch (modelId service) := Or.inr ⟨pattern, declared, matched⟩
    exact select?_of_accepts member (Rule.acceptsBy_iff.mpr fits)

/-- Patterns of this engine are beginnings of models. -/
def startsModel (pattern : Pattern) (modelId : String) : Bool := pattern.source.toList.isPrefixOf modelId.toList

/-- The exact rule is for the first service, and comes too late for it. -/
theorem least_pair_selected_exact_behind :
    let pattern : Pattern := ⟨"gpt-4", .empty⟩
    let first : Rule := { pattern := some pattern }
    let other : Rule := { modelId := some "gpt-3.5-turbo" }
    let services := ["gpt-3.5-turbo", "gpt-4-32k", "gpt-4"]
    let chosen (rules : List Rule) :=
      select? (fun rule modelId => rule.acceptsBy startsModel modelId) rules services (some 0)
    (∃ service ∈ services, startsModel pattern service = true) ∧
    (pairsOf (fun rule modelId => rule.IsFor startsModel modelId) [first] services).Nonempty ∧
    chosen [first, other] = chosen [first] ∧ chosen [first, other] = some ⟨1, some 0⟩ ∧
    IsLeast (pairsOf (fun rule modelId => rule.IsFor startsModel modelId) [first, other] services) (toLex (0, 1)) := by
  intro pattern first other services chosen
  obtain ⟨byRule, -, -, -, earlier, -⟩ := least_pair_selected startsModel id services (some 0)
  have matched : ∃ service ∈ services, startsModel pattern service = true := by decide
  have selected : chosen [first, other] = some ⟨1, some 0⟩ := by decide +kernel
  have alone : chosen [first] = some ⟨1, some 0⟩ := by decide +kernel
  have least := (byRule [first, other] 0 1).mp selected
  exact ⟨matched, ⟨_, ((byRule [first] 0 1).mp alone).1⟩, (earlier [] first pattern [other] rfl matched).1, selected,
    least⟩

end PromptKernel
