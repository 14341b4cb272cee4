import Mathlib.Data.List.Forall2
import Mathlib.Data.Option.Basic
import PromptKernel.Proofs.LookupCoherence
import PromptKernel.Proofs.UnusedVariables

/-! Lookups in two renderings, the second of which has one variable more. Blocks of the first may
stand at a place where those of the second have the value that was there. The two come to the same
as long as the place is left alone. -/

namespace PromptKernel.Template

/-- The value is at the place, unless the place cannot be told at all. -/
def HoldsAt (bindings : Fields Json) (path : List String) (value : Json) : Prop :=
  follow (.object bindings) path = .ok (some value) ∨ ∃ error, follow (.object bindings) path = .error error

theorem follow_object (fields : Fields Json) (key : String) (keys : List String) :
    follow (.object fields) (key :: keys) = match fields.get? key with
      | none => .ok none
      | some value => follow value keys := by
  simp only [follow, child?]
  cases fields.get? key <;> rfl

/-- Only the variable that the path starts with counts. -/
theorem follow_object_congr {fields other : Fields Json} {key : String} (same : other.get? key = fields.get? key)
    (keys : List String) : follow (.object other) (key :: keys) = follow (.object fields) (key :: keys) := by
  rw [follow_object, follow_object, same]

theorem follow_append (value : Json) (keys more : List String) :
    follow value (keys ++ more) = match follow value keys with
      | .ok (some value) => follow value more
      | outcome => outcome := by
  induction keys generalizing value with
  | nil => rfl
  | cons key keys ih =>
    rw [List.cons_append, follow, follow]
    rcases child? value key with error | _ | inner
    · rfl
    · rfl
    · exact ih inner

theorem HoldsAt.follow_more {bindings : Fields Json} {keys : List String} {item : Json}
    (holds : HoldsAt bindings keys item) (more : List String) :
    follow (.object bindings) (keys ++ more) = follow item more ∨
      ∃ error, follow (.object bindings) (keys ++ more) = .error error := by
  rw [follow_append]
  rcases holds with there | ⟨error, there⟩
  · rw [there]
    exact .inl rfl
  · rw [there]
    exact .inr ⟨error, rfl⟩

/-- What the first of two renderings counts on while it goes on. Only some names may be assigned, and
nothing else bears on it. -/
structure Watch where
  free : String → Prop
  kept : Fields Json → Prop
  stable : ∀ {before after}, Fields.AgreeOutside free before after → kept before → kept after

theorem HoldsAt.of_agree {free : String → Prop} {before after : Fields Json} {key : String} {keys : List String}
    {value : Json} (holds : HoldsAt before (key :: keys) value) (agree : before.AgreeOutside free after)
    (fixed : ¬ free key) : HoldsAt after (key :: keys) value := by
  unfold HoldsAt at holds ⊢
  rwa [follow_object_congr (agree key fixed)]

/-- The value of a variable, or a value in it, is to stay where it is. -/
def Watch.hold (watch : Watch) (key : String) (keys : List String) (value : Json) : Watch where
  free name := watch.free name ∧ name ≠ key
  kept bindings := watch.kept bindings ∧ HoldsAt bindings (key :: keys) value
  stable agree kept :=
    ⟨watch.stable (agree.mono fun _ member => member.1) kept.1, kept.2.of_agree agree fun member => member.2 rfl⟩

/-- A name for the item of a block stands for the value of the item. -/
def Named.settled (value : Json) : Named → Named
  | item => .value value
  | .value other => .value other

variable (rules : Rules) (value : Json) (watch : Watch)

/-- Blocks that are about the same value. -/
inductive OwnBlock : Block → Block → Prop
  | value (valued : ∀ entry ∈ names, entry.2 ≠ .item) :
      OwnBlock ⟨.value item, names, locals⟩ ⟨.value item, names, locals⟩
  | place (unguarded : rules.guarded = false) (apart : key ≠ rules.name) :
      OwnBlock ⟨.place (key :: keys), names, locals⟩ ⟨.place (key :: keys), names, locals⟩
  | held (guarded : rules.guarded = true) (apart : key ≠ rules.name) (fixed : ¬ watch.free key)
      (holds : ∀ bindings, watch.kept bindings → HoldsAt bindings (key :: keys) item) :
      OwnBlock ⟨.place (key :: keys), names, locals⟩
        ⟨.value item, names.map fun entry => (entry.1, entry.2.settled item), locals⟩

/-- Blocks that are about the same value, or both about all variables. -/
inductive SharedBlock : Block → Block → Prop
  | own (own : OwnBlock rules watch block other) : SharedBlock block other
  | root : SharedBlock {} {}
  | wider (widens : Fields.Widens rules.name value fields more) (valued : ∀ entry ∈ names, entry.2 ≠ .item) :
      SharedBlock ⟨.value (.object fields), names, none⟩ ⟨.value (.object more), names, none⟩

/-- The blocks around the same element. The innermost ones are about the same values. -/
structure Around (depth : Nat) (blocks others : List Block) : Prop where
  shared : List.Forall₂ (SharedBlock rules value watch) blocks others
  own : ∀ i < depth, ∃ block other, blocks[i]? = some block ∧ others[i]? = some other ∧ OwnBlock rules watch block other

/-- Where the same path leads. A place in the variables is told by the name it starts with. -/
inductive Target.Twin (anchor : Option String) : Target → Target → Prop
  | place (apart : key ≠ rules.name) (anchored : rules.guarded = true → ¬ watch.free key ∨ anchor = some key) :
      Twin anchor (.place (key :: keys)) (.place (key :: keys))
  | within : Twin anchor (.within item keys) (.within item keys)
  | wider (widens : Fields.Widens rules.name value fields more) (apart : key ≠ rules.name) :
      Twin anchor (.within (.object fields) (key :: keys)) (.within (.object more) (key :: keys))
  | held (guarded : rules.guarded = true) (apart : key ≠ rules.name) (fixed : ¬ watch.free key)
      (holds : ∀ bindings, watch.kept bindings → HoldsAt bindings (key :: keys) item) :
      Twin anchor (.place (key :: keys ++ rest)) (.within item rest)

/-- What the same name stands for that blocks give away. -/
inductive NamedTwin : List String × Named → List String × Named → Prop
  | value : NamedTwin (path, .value item) (other, .value item)
  | place (unguarded : rules.guarded = false) (apart : key ≠ rules.name) :
      NamedTwin (key :: keys, .item) (key :: keys, .item)
  | held (guarded : rules.guarded = true) (apart : key ≠ rules.name) (fixed : ¬ watch.free key)
      (holds : ∀ bindings, watch.kept bindings → HoldsAt bindings (key :: keys) item) :
      NamedTwin (key :: keys, .item) (other, .value item)

variable {rules value watch}

theorem lookup_settled (names : List (String × Named)) (item : Json) (name : String) :
    (names.map fun entry => (entry.1, entry.2.settled item)).lookup name =
      (names.lookup name).map (Named.settled item) := by
  induction names with
  | nil => rfl
  | cons entry names ih =>
    obtain ⟨key, named⟩ := entry
    simp only [List.map_cons, List.lookup_cons]
    cases name == key with
    | true => rfl
    | false => exact ih

theorem mem_of_lookup {names : List (String × Named)} {name : String} {named : Named}
    (found : names.lookup name = some named) : (name, named) ∈ names := by
  obtain ⟨before, after, rfl, -⟩ := List.lookup_eq_some_iff.mp found
  exact List.mem_append_right before List.mem_cons_self

theorem valued_named {block other : Block} (same : other.names = block.names)
    (valued : ∀ entry ∈ block.names, entry.2 ≠ .item) (name : String) :
    Option.Rel (NamedTwin rules watch) ((block.names.lookup name).map fun named => (block.path, named))
      ((other.names.lookup name).map fun named => (other.path, named)) := by
  rw [same]
  cases found : block.names.lookup name with
  | none => exact .none
  | some named =>
    cases named with
    | item => exact absurd rfl (valued _ (mem_of_lookup found))
    | value item => exact .some .value

namespace OwnBlock
variable {block other : Block} (own : OwnBlock rules watch block other)
include own

theorem named (name : String) :
    Option.Rel (NamedTwin rules watch) ((block.names.lookup name).map fun named => (block.path, named))
      ((other.names.lookup name).map fun named => (other.path, named)) := by
  cases own with
  | value valued => exact valued_named rfl valued name
  | @place key keys names locals unguarded apart =>
    cases names.lookup name with
    | none => exact .none
    | some named =>
      cases named with
      | item => exact .some (.place unguarded apart)
      | value item => exact .some .value
  | @held key keys item names locals guarded apart fixed holds =>
    dsimp only
    rw [lookup_settled]
    cases names.lookup name with
    | none => exact .none
    | some named =>
      cases named with
      | item => exact .some (.held guarded apart fixed holds)
      | value item => exact .some .value

theorem locals : other.locals = block.locals := by cases own <;> rfl

theorem target (anchor : Option String) (keys : List String) :
    Target.Twin rules value watch anchor (block.target keys) (other.target keys) := by
  cases own with
  | value _ => exact .within
  | place unguarded apart => exact .place apart fun guarded => by rw [unguarded] at guarded; cases guarded
  | held guarded apart fixed holds => exact .held guarded apart fixed holds

end OwnBlock

namespace SharedBlock
variable {block other : Block} (shared : SharedBlock rules value watch block other)
include shared

theorem named (name : String) :
    Option.Rel (NamedTwin rules watch) ((block.names.lookup name).map fun named => (block.path, named))
      ((other.names.lookup name).map fun named => (other.path, named)) := by
  cases shared with
  | own own => exact own.named name
  | root => exact .none
  | wider _ valued => exact valued_named rfl valued name

theorem locals : other.locals = block.locals := by
  cases shared with
  | own own => exact own.locals
  | root | wider => rfl

theorem target {anchor : Option String} {key : String} (keys : List String) (apart : key ≠ rules.name)
    (anchored : rules.guarded = true → anchor = some key) :
    Target.Twin rules value watch anchor (block.target (key :: keys)) (other.target (key :: keys)) := by
  cases shared with
  | own own => exact own.target anchor _
  | root => exact .place apart fun guarded => .inr (anchored guarded)
  | wider widens _ => exact .wider widens apart

end SharedBlock

theorem rel_findSome? {R : α → β → Prop} {S : γ → δ → Prop} {f : α → Option γ} {g : β → Option δ}
    {as : List α} {bs : List β} (related : List.Forall₂ R as bs) (kept : ∀ a b, R a b → Option.Rel S (f a) (g b)) :
    Option.Rel S (as.findSome? f) (bs.findSome? g) := by
  induction related with
  | nil => exact .none
  | @cons a b as bs first _ ih =>
    have found := kept a b first
    rw [List.findSome?_cons, List.findSome?_cons]
    generalize f a = result at found ⊢
    generalize g b = other at found ⊢
    cases found with
    | none => exact ih
    | some agreed => exact .some agreed

theorem rel_getElem? {R : α → β → Prop} {as : List α} {bs : List β} (related : List.Forall₂ R as bs) (i : Nat) :
    Option.Rel R as[i]? bs[i]? := by
  induction related generalizing i with
  | nil => exact .none
  | cons first _ ih =>
    cases i with
    | zero => exact .some first
    | succ i => exact ih i

/-! A watch that has more to look after has no other blocks around it. -/

section
variable {closer : Watch} (more : ∀ bindings, closer.kept bindings → watch.kept bindings)
  (fewer : ∀ name, closer.free name → watch.free name)
include more fewer

theorem OwnBlock.tighten {block other : Block} (own : OwnBlock rules watch block other) :
    OwnBlock rules closer block other := by
  cases own with
  | value valued => exact .value valued
  | place unguarded apart => exact .place unguarded apart
  | held guarded apart fixed holds =>
    exact .held guarded apart (fun free => fixed (fewer _ free)) fun bindings kept =>
      holds bindings (more bindings kept)

theorem Around.tighten {depth : Nat} {blocks others : List Block}
    (around : Around rules value watch depth blocks others) : Around rules value closer depth blocks others where
  shared := around.shared.imp fun block other shared => by
    cases shared with
    | own own => exact .own (own.tighten more fewer)
    | root => exact .root
    | wider widens valued => exact .wider widens valued
  own i inside := by
    obtain ⟨block, other, first, second, own⟩ := around.own i inside
    exact ⟨block, other, first, second, own.tighten more fewer⟩

end

namespace Around
variable {depth : Nat} {blocks others : List Block} (around : Around rules value watch depth blocks others)
include around

theorem mono {less : Nat} (fewer : less ≤ depth) : Around rules value watch less blocks others where
  shared := around.shared
  own i inside := around.own i (inside.trans_le fewer)

theorem named (name : String) : Option.Rel (NamedTwin rules watch) (named? blocks name) (named? others name) :=
  rel_findSome? around.shared fun _ _ shared => shared.named name

theorem locals (level : Nat) :
    (others.drop level).findSome? Block.locals = (blocks.drop level).findSome? Block.locals := by
  have shared := List.forall₂_drop level around.shared
  generalize blocks.drop level = blocks at shared ⊢
  generalize others.drop level = others at shared ⊢
  induction shared with
  | nil => rfl
  | cons first _ ih => rw [List.findSome?_cons, List.findSome?_cons, first.locals, ih]

theorem cons_own {block other : Block} (own : OwnBlock rules watch block other) :
    Around rules value watch (depth + 1) (block :: blocks) (other :: others) where
  shared := .cons (.own own) around.shared
  own i inside := by
    cases i with
    | zero => exact ⟨block, other, rfl, rfl, own⟩
    | succ i => exact around.own i (Nat.lt_of_succ_lt_succ inside)

/-- Out of the given number of blocks, or in the innermost one if there are not as many. -/
theorem block (ups : Nat) : SharedBlock rules value watch
    ((blocks[ups]? <|> blocks.head?).getD {}) ((others[ups]? <|> others.head?).getD {}) := by
  have outer := rel_getElem? around.shared ups
  have inner := rel_getElem? around.shared 0
  rw [List.head?_eq_getElem?, List.head?_eq_getElem?]
  generalize blocks[ups]? = block at outer ⊢
  generalize others[ups]? = other at outer ⊢
  cases outer with
  | some shared => exact shared
  | none =>
    generalize blocks[0]? = block at inner ⊢
    generalize others[0]? = other at inner ⊢
    cases inner with
    | some shared => exact shared
    | none => exact .root

theorem ownBlock {ups : Nat} (inside : ups < depth) : OwnBlock rules watch
    ((blocks[ups]? <|> blocks.head?).getD {}) ((others[ups]? <|> others.head?).getD {}) := by
  obtain ⟨block, other, first, second, own⟩ := around.own ups inside
  rw [first, second]
  exact own

theorem target (written : String) {steps : List Step} (unused : rules.name ∉ keysOf steps)
    (about : keysOf steps = [] → (splitUps steps).1 < depth ∧ (splitUps steps).2.head? ≠ some .root) :
    Target.Twin rules value watch ((Path.steps written steps).anchor? depth)
      (Template.target blocks steps) (Template.target others steps) := by
  unfold Path.anchor? Template.target
  dsimp only
  generalize splitUps steps = split at about ⊢
  obtain ⟨ups, rest⟩ := split
  dsimp only at about ⊢
  have plain : Target.Twin rules value watch
      (if (ups = 0 ∧ rest.head? = some .root) ∨ depth ≤ ups then (keysOf steps).head? else none)
      (if ups = 0 ∧ rest.head? = some .root then .place (keysOf steps)
        else ((blocks[ups]? <|> blocks.head?).getD {}).target (keysOf steps))
      (if ups = 0 ∧ rest.head? = some .root then .place (keysOf steps)
        else ((others[ups]? <|> others.head?).getD {}).target (keysOf steps)) := by
    by_cases inside : ups < depth ∧ ¬ (ups = 0 ∧ rest.head? = some .root)
    · rw [if_neg inside.2, if_neg inside.2]
      exact (around.ownBlock inside.1).target _ _
    · have outside : (ups = 0 ∧ rest.head? = some .root) ∨ depth ≤ ups := by
        by_cases root : ups = 0 ∧ rest.head? = some .root
        · exact .inl root
        · exact .inr (Nat.le_of_not_lt fun less => inside ⟨less, root⟩)
      rw [if_pos outside]
      cases keys : keysOf steps with
      | nil =>
        obtain ⟨less, apart⟩ := about keys
        exact absurd ⟨less, fun root => apart root.2⟩ inside
      | cons key more =>
        have apart : key ≠ rules.name := by
          rintro rfl
          exact unused (keys ▸ List.mem_cons_self)
        split
        · exact .place apart fun _ => .inr rfl
        · exact (around.block _).target more apart fun _ => rfl
  rcases rest with _ | ⟨step, rest⟩
  · exact plain
  · cases step with
    | up | root => exact plain
    | key name =>
      have named := around.named name
      dsimp only
      generalize named? blocks name = first at named ⊢
      generalize named? others name = second at named ⊢
      cases named with
      | none => exact plain
      | some twin =>
        cases twin with
        | value => exact .within
        | place unguarded apart =>
          exact .place apart fun guarded => by rw [unguarded] at guarded; cases guarded
        | held guarded apart fixed holds => exact .held guarded apart fixed holds

end Around

/-! What is found. -/

def Target.found (context : Json) : Target → Except Error Found
  | place path => (follow context path).map fun found =>
    match found with
    | some value => .place path value
    | none => .missing
  | within value path => (follow value path).map fun found =>
    match found with
    | some value => .value value
    | none => .missing

theorem lookup_steps (context : Json) (blocks : List Block) (written : String) (steps : List Step) :
    lookup context blocks (.steps written steps) = (target blocks steps).found context := by
  unfold lookup Target.found
  rfl

/-- A place that is found is that of a value in a variable. -/
structure Found.Anchored (rules : Rules) (watch : Watch) (anchor : Option String) (bindings : Fields Json)
    (found : Found) : Prop where
  place : ∀ path item, found = .place path item → ∃ key keys, path = key :: keys ∧ key ≠ rules.name ∧
    follow (.object bindings) path = .ok (some item) ∧
      (rules.guarded = true → ¬ watch.free key ∨ anchor = some key)

theorem Found.Anchored.of_value {anchor : Option String} {bindings : Fields Json} {found : Found}
    (plain : ∀ path item, found ≠ .place path item) : found.Anchored rules watch anchor bindings :=
  ⟨fun path item same => absurd same (plain path item)⟩

/-- What two lookups come to. While variables are left alone, a place tells nothing but what is there. -/
inductive LookupTwin (rules : Rules) (watch : Watch) (anchor : Option String) (bindings : Fields Json) :
    Except Error Found → Except Error Found → Prop
  | error (same : rules.guarded = false → outcome = .error error) :
      LookupTwin rules watch anchor bindings (.error error) outcome
  | ok (shown : other.json = found.json) (same : rules.guarded = false → other = found)
      (anchored : found.Anchored rules watch anchor bindings) :
      LookupTwin rules watch anchor bindings (.ok found) (.ok other)

theorem LookupTwin.of_eq {anchor : Option String} {bindings : Fields Json} {outcome : Except Error Found}
    (anchored : ∀ found, outcome = .ok found → found.Anchored rules watch anchor bindings) :
    LookupTwin rules watch anchor bindings outcome outcome := by
  cases outcome with
  | error error => exact .error fun _ => rfl
  | ok found => exact .ok rfl (fun _ => rfl) (anchored found rfl)

theorem eq_of_found_place {context item : Json} {keys path : List String}
    (looked : (Target.place keys).found context = .ok (.place path item)) :
    path = keys ∧ follow context keys = .ok (some item) := by
  unfold Target.found at looked
  dsimp only at looked
  rcases followed : follow context keys with error | _ | inner
  · rw [followed] at looked
    cases looked
  · rw [followed] at looked
    cases looked
  · rw [followed] at looked
    cases looked
    exact ⟨rfl, rfl⟩

theorem within_ne_place {context item inner : Json} {keys path : List String} :
    (Target.within item keys).found context ≠ .ok (.place path inner) := by
  unfold Target.found
  dsimp only
  rcases follow item keys with error | _ | other <;> rintro ⟨⟩

/-- What is looked up in one value has no place. -/
theorem LookupTwin.of_follow_eq {anchor : Option String} {bindings : Fields Json} {context otherContext item other : Json}
    {keys : List String} (same : follow other keys = follow item keys) :
    LookupTwin rules watch anchor bindings ((Target.within item keys).found context)
      ((Target.within other keys).found otherContext) := by
  have equal : (Target.within other keys).found otherContext = (Target.within item keys).found context := by
    unfold Target.found
    dsimp only
    rw [same]
  rw [equal]
  exact .of_eq fun found looked => .of_value fun path inner shape => within_ne_place (shape ▸ looked)

section
variable {anchor : Option String} {bindings wider : Fields Json}
  (widens : bindings.Widens rules.name value wider) (kept : watch.kept bindings)
include widens kept

theorem Target.Twin.found {target other : Target} (twin : Target.Twin rules value watch anchor target other) :
    LookupTwin rules watch anchor bindings (target.found (.object bindings)) (other.found (.object wider)) := by
  cases twin with
  | @place key keys apart anchored =>
    have equal : (Target.place (key :: keys)).found (.object wider) =
        (Target.place (key :: keys)).found (.object bindings) := by
      unfold Target.found
      dsimp only
      rw [follow_object_congr (widens.same key apart)]
    rw [equal]
    refine .of_eq fun found looked => ⟨fun path item shape => ?_⟩
    subst shape
    obtain ⟨rfl, followed⟩ := eq_of_found_place looked
    exact ⟨key, keys, rfl, apart, followed, anchored⟩
  | within => exact .of_follow_eq rfl
  | wider inside apart => exact .of_follow_eq (follow_object_congr (inside.same _ apart) _)
  | @held key keys item rest guarded apart fixed holds =>
    have unguarded {P : Prop} : rules.guarded = false → P := fun off => by rw [guarded] at off; cases off
    unfold Target.found
    dsimp only
    rcases (holds bindings kept).follow_more rest with there | ⟨error, failed⟩
    · rw [there]
      rcases followed : follow item rest with error | _ | inner
      · exact .error unguarded
      · exact .ok rfl unguarded (.of_value fun _ _ shape => by cases shape)
      · refine .ok rfl unguarded ⟨fun path item shape => ?_⟩
        cases shape
        exact ⟨key, keys ++ rest, rfl, apart, there.trans followed, fun _ => .inl fixed⟩
    · rw [failed]
      exact .error unguarded

theorem Around.lookup {scope : Scope} {blocks others : List Block}
    (around : Around rules value watch scope.depth blocks others) {path : Path} (spares : path.Spares rules scope) :
    LookupTwin rules watch (path.anchor? scope.depth) bindings
      (Template.lookup (.object bindings) blocks path) (Template.lookup (.object wider) others path) := by
  cases path with
  | frame written level name =>
    have same : Template.lookup (.object wider) others (.frame written level name) =
        Template.lookup (.object bindings) blocks (.frame written level name) := by
      unfold Template.lookup
      dsimp only
      rw [around.locals level]
    rw [same]
    refine .of_eq fun found looked => .of_value fun path inner shape => ?_
    subst shape
    unfold Template.lookup at looked
    dsimp only at looked
    split at looked <;> cases looked
  | steps written steps =>
    rw [lookup_steps, lookup_steps]
    exact (around.target written spares.1 spares.2).found widens kept

end

end PromptKernel.Template
