import PromptKernel.Function.Listing

/-! Which service a function runs on. Rules are tried in order and, for each rule, services in
order, so that the chosen pair is the least one in this sense. -/

namespace PromptKernel

/-- The position of the first rule that accepts some service, and of the first service that it
accepts. -/
def firstPair? (accepts : ρ → σ → Bool) (rules : List ρ) (services : List σ) : Option (Nat × Nat) :=
  match rules with
  | [] => none
  | rule :: rules =>
    match services.findIdx? (accepts rule) with
    | some j => some (0, j)
    | none => (firstPair? accepts rules services).map fun (i, j) => (i + 1, j)

/-- A chosen service and the rule that chose it, by their positions. The default service needs no
rule. -/
structure Selection where
  service : Nat
  rule : Option Nat
deriving DecidableEq, Repr

/-- The service of the first pair, or else the default. -/
def select? (accepts : ρ → σ → Bool) (rules : List ρ) (services : List σ) (fallback : Option Nat) :
    Option Selection :=
  match firstPair? accepts rules services with
  | some (i, j) => some ⟨j, some i⟩
  | none => fallback.map fun j => ⟨j, none⟩

namespace Selection

def parameters (selection : Selection) (rules : List Rule) : Fields Json :=
  match selection.rule.bind (rules[·]?) with
  | some rule => rule.parameters
  | none => []

def listing (selection : Selection) (rules : List Rule) (modelId : String) : String :=
  let rule := selection.rule.bind (rules[·]?)
  Listing.record "ServiceSelection" [
    ("model_id", Text.quoted modelId), ("settings", Listing.optional Rule.listing rule)]

end Selection

end PromptKernel
