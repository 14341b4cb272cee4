import PromptKernel.Proofs.WiderCalls

/-! Blocks about a value in two renderings, the second of which has one variable more. The first may know
the place of the value, and looks it up there again and again; nothing is assigned meanwhile that would
change what is at the place. -/

namespace PromptKernel.Template

/-- What a block is about in the one and in the other rendering. -/
inductive HeldTwin (rules : Rules) (watch : Watch) : Found → Found → Prop
  | value (shown : other.json = found.json) (plain : ∀ path item, found ≠ .place path item)
      (otherPlain : ∀ path item, other ≠ .place path item) : HeldTwin rules watch found other
  | place (unguarded : rules.guarded = false) (apart : key ≠ rules.name) :
      HeldTwin rules watch (.place (key :: keys) item) (.place (key :: keys) item)
  | held (guarded : rules.guarded = true) (apart : key ≠ rules.name) (fixed : ¬ watch.free key)
      (holds : ∀ bindings, watch.kept bindings → HoldsAt bindings (key :: keys) item) (proper : item.Proper) :
      HeldTwin rules watch (.place (key :: keys) item) (.value item)

theorem eq_of_index? {i n : Nat} (found : index? (toString i) = some n) : n = i := by
  rw [index?_toString] at found
  split at found
  · exact (Option.some.inj found).symm
  · cases found

/-- Items are found under their keys, unless they are too many to be told apart. -/
theorem follow_item {item : Json} (proper : item.Proper) {items : List Helper.Item}
    (listed : Helper.items? item = some items) {entry : Helper.Item} (member : entry ∈ items) :
    follow item [entry.segment] = .ok (some entry.value) ∨ ∃ error, follow item [entry.segment] = .error error := by
  cases proper with
  | null | bool | number | string => cases listed
  | @array list _ =>
    cases listed
    obtain ⟨⟨value, i⟩, indexed, rfl⟩ := List.mem_map.mp member
    have found : list[i]? = some value := List.mem_zipIdx_iff_getElem?.mp indexed
    rw [follow, child?]
    dsimp only
    cases read : index? (toString i) with
    | none => exact .inr ⟨_, rfl⟩
    | some n =>
      rw [eq_of_index? read]
      dsimp only
      rw [found]
      exact .inl rfl
  | @object fields distinct _ =>
    cases listed
    obtain ⟨⟨key, value⟩, field, rfl⟩ := List.mem_map.mp member
    have found := Fields.get?_of_mem distinct field
    rw [follow, child?]
    dsimp only
    rw [found]
    exact .inl rfl

theorem HoldsAt.item {bindings : Fields Json} {path : List String} {item : Json} (holds : HoldsAt bindings path item)
    (proper : item.Proper) {items : List Helper.Item} (listed : Helper.items? item = some items)
    {entry : Helper.Item} (member : entry ∈ items) : HoldsAt bindings (path ++ [entry.segment]) entry.value := by
  rcases holds.follow_more [entry.segment] with there | failed
  · unfold HoldsAt
    rw [there]
    exact follow_item proper listed member
  · exact .inr failed

/-- The names that a body has for its item and the key of it. -/
def itemNames (names : List String) (key : Json) (named : Named) : List (String × Named) :=
  match names with
  | [name] => [(name, named)]
  | [name, other] => [(other, .value key), (name, named)]
  | _ => []

theorem itemNames_valued (names : List String) (key item : Json) :
    ∀ entry ∈ itemNames names key (.value item), entry.2 ≠ .item := by
  unfold itemNames
  split <;> simp

theorem itemNames_settled (names : List String) (key item : Json) :
    ((itemNames names key .item).map fun entry => (entry.1, entry.2.settled item)) =
      itemNames names key (.value item) := by
  unfold itemNames
  split <;> rfl

def itemLocals (entry : Helper.Item) (position : Nat) (isLast : Bool) : Option (Fields Json) :=
  (Helper.itemBlock .missing [] entry position isLast).locals

theorem itemBlock_place (path : List String) (item : Json) (names : List String) (entry : Helper.Item)
    (position : Nat) (isLast : Bool) : Helper.itemBlock (.place path item) names entry position isLast =
      ⟨.place (path ++ [entry.segment]), itemNames names entry.key .item, itemLocals entry position isLast⟩ := rfl

theorem itemBlock_value {found : Found} (plain : ∀ path item, found ≠ .place path item) (names : List String)
    (entry : Helper.Item) (position : Nat) (isLast : Bool) : Helper.itemBlock found names entry position isLast =
      ⟨.value entry.value, itemNames names entry.key (.value entry.value), itemLocals entry position isLast⟩ := by
  cases found with
  | place path item => exact absurd rfl (plain path item)
  | value item | missing => rfl

def valueNames (names : List String) (named : Named) : List (String × Named) :=
  match names with
  | [name] => [(name, named)]
  | _ => []

theorem valueNames_valued (names : List String) (item : Json) :
    ∀ entry ∈ valueNames names (.value item), entry.2 ≠ .item := by
  unfold valueNames
  split <;> simp

theorem valueNames_settled (names : List String) (item : Json) :
    ((valueNames names .item).map fun entry => (entry.1, entry.2.settled item)) = valueNames names (.value item) := by
  unfold valueNames
  split <;> rfl

theorem valueBlock_place (path : List String) (item : Json) (names : List String) :
    valueBlock (.place path item) names = ⟨.place path, valueNames names .item, none⟩ := by
  unfold valueBlock valueNames
  rcases names with _ | ⟨name, _ | ⟨other, names⟩⟩ <;> rfl

theorem valueBlock_value {found : Found} (plain : ∀ path item, found ≠ .place path item) (names : List String) :
    valueBlock found names = ⟨.value found.json, valueNames names (.value found.json), none⟩ := by
  cases found with
  | place path item => exact absurd rfl (plain path item)
  | value item | missing =>
    unfold valueBlock valueNames
    rcases names with _ | ⟨name, _ | ⟨other, names⟩⟩ <;> rfl

section
variable {rules : Rules} {watch : Watch} {found other : Found} (held : HeldTwin rules watch found other)
include held

theorem HeldTwin.json : other.json = found.json := by
  cases held with
  | value shown _ _ => exact shown
  | place _ _ | held _ _ _ _ _ => rfl

/-- The blocks for an item are about the same item. -/
theorem HeldTwin.itemBlock (names : List String) {items : List Helper.Item}
    (listed : Helper.items? found.json = some items) {entry : Helper.Item} (member : entry ∈ items)
    (position : Nat) (isLast : Bool) : OwnBlock rules watch (Helper.itemBlock found names entry position isLast)
      (Helper.itemBlock other names entry position isLast) := by
  cases held with
  | value _ plain otherPlain =>
    rw [itemBlock_value plain, itemBlock_value otherPlain]
    exact .value (itemNames_valued names _ _)
  | place unguarded apart => exact .place unguarded apart
  | held guarded apart fixed holds proper =>
    rw [itemBlock_place, itemBlock_value (fun _ _ same => by cases same), ← itemNames_settled]
    exact .held guarded apart fixed fun bindings kept => (holds bindings kept).item proper listed member

/-- The blocks for the value itself are about the same value. -/
theorem HeldTwin.valueBlock (names : List String) :
    OwnBlock rules watch (valueBlock found names) (valueBlock other names) := by
  cases held with
  | value shown plain otherPlain =>
    rw [valueBlock_value plain, valueBlock_value otherPlain, shown]
    exact .value (valueNames_valued names _)
  | place unguarded apart =>
    rw [valueBlock_place]
    exact .place unguarded apart
  | held guarded apart fixed holds proper =>
    rw [valueBlock_place, valueBlock_value (fun _ _ same => by cases same), ← valueNames_settled]
    exact .held guarded apart fixed holds

end

variable {twins : Twins} {watch : Watch} {scope : Scope}

/-- A closer watch that holds what a block is about. -/
structure Holding (twins : Twins) (watch : Watch) (scope : Scope) (params : List Argument) (closer : Watch) : Prop where
  more : ∀ bindings, closer.kept bindings → watch.kept bindings
  fewer : ∀ name, closer.free name → watch.free name
  fits : ∀ name, (scope.holding twins.guarded params).free name → closer.free name

/-- What the first argument comes to can be held from then on. -/
theorem exists_holding {argument : Argument} {params : List Argument} {moment otherMoment : Moment}
    {found other : Found} (fits : ∀ name, scope.free name → watch.free name)
    (evaluated : Evaluated twins watch scope argument moment found other)
    (alike : Alike twins watch moment otherMoment) :
    ∃ closer, Holding twins watch scope (argument :: params) closer ∧ HeldTwin twins.toRules closer found other ∧
      Alike twins closer moment otherMoment := by
  have same : Holding twins watch scope (argument :: params) watch :=
    ⟨fun _ kept => kept, fun _ free => free, fun name free => fits name free.1⟩
  by_cases plain : ∀ path item, found ≠ .place path item
  · exact ⟨watch, same, .value evaluated.value.json plain (evaluated.value.plain plain), alike⟩
  obtain ⟨path, item, rfl⟩ : ∃ path item, found = .place path item := by simpa using plain
  obtain ⟨key, keys, rfl, apart, followed, anchored⟩ := evaluated.anchored.place path item rfl
  cases guarded : twins.guarded with
  | false =>
    cases evaluated.value with
    | same _ => exact ⟨watch, same, .place guarded apart, alike⟩
    | settled on => rw [guarded] at on; cases on
  | true =>
    have shown : other = .value item := by
      cases evaluated.value with
      | same settled => exact absurd rfl (settled guarded _ _)
      | settled _ => rfl
    subst shown
    refine ⟨watch.hold key keys item, ⟨fun _ kept => kept.1, fun _ free => free.1, ?_⟩,
      .held guarded apart (fun free => free.2 rfl) (fun _ kept => kept.2) (evaluated.proper guarded _ _ rfl),
      { alike with kept := ⟨alike.kept, .inl followed⟩ }⟩
    rintro name ⟨free, unheld⟩
    refine ⟨fits name free, ?_⟩
    rintro rfl
    rcases anchored guarded with fixed | anchor
    · exact fixed (fits name free)
    · exact unheld guarded anchor

/-- The evaluated arguments of a call whose body is about the first one, which is held at the moment. -/
inductive Opened (twins : Twins) (watch : Watch) (scope : Scope) (params : List Argument) (bindings : Fields Json) :
    List Found → List Found → Prop
  | nothing : Opened twins watch scope params bindings [] []
  | held (holding : Holding twins watch scope params closer) (held : HeldTwin twins.toRules closer found other)
      (kept : closer.kept bindings) :
      Opened twins watch scope params bindings (found :: values) (other :: others)

theorem call_meets {blocks others : List Block} (placed : Placed twins watch scope blocks others) {e : Expression}
    (spares : e.CallSpares twins.toRules scope) (holds : e.Holds twins.toRules scope) {moment otherMoment : Moment}
    (alike : Alike twins watch moment otherMoment) :
    (call twins.setting blocks e).Meets twins watch
      (fun later call other => Called twins.guarded e blocks others call other ∧
        Opened twins watch scope e.params later.state.bindings call.params other.params)
      (call twins.otherSetting others e) moment otherMoment := by
  obtain ⟨head, params, hash⟩ := e
  refine .bind (nameOf_twin placed spares _ _ alike) fun _ name _ _ named alike => ?_
  obtain ⟨rfl, mayCall⟩ := named
  cases params with
  | nil =>
    simp only [evaluateAll, pure_bind]
    refine .bind (evaluateHash_twin placed _ spares.hash _ _ alike) fun fields otherFields _ _ named alike => ?_
    exact .pure alike ⟨⟨⟨rfl, rfl, .nil, named⟩, mayCall, ⟨rfl, rfl⟩, ⟨rfl, rfl⟩, ⟨rfl, rfl⟩⟩, .nothing⟩
  | cons argument params =>
    simp only [evaluateAll, bind_assoc, pure_bind]
    refine .bind (evaluate_meets placed argument spares.params.1 alike) fun found other _ _ first alike => ?_
    obtain ⟨closer, holding, held, alike⟩ := @exists_holding _ _ _ argument params _ _ _ _ placed.fits first alike
    have inner : Placed twins closer (scope.holding twins.guarded (argument :: params)) blocks others :=
      ⟨holding.fits, placed.around.tighten holding.more holding.fewer⟩
    refine .of_inner holding.more ?_
    refine .bind (evaluateAll_twin inner params holds.params _ _ alike) fun values otherValues _ _ rest alike => ?_
    refine .bind (evaluateHash_twin inner _ holds.hash _ _ alike) fun fields otherFields _ _ named alike => ?_
    have twin : CallTwin twins.guarded (argument :: params) hash
        { name, params := found :: values, hash := fields, blocks }
        { name, params := other :: otherValues, hash := otherFields, blocks := others } :=
      ⟨rfl, rfl, .cons first.toArgumentTwin rest, named⟩
    exact .pure alike ⟨⟨twin, mayCall, ⟨rfl, rfl⟩, ⟨rfl, rfl⟩, ⟨rfl, rfl⟩⟩, .held holding held alike.kept⟩

section
variable {closer : Watch} {found otherFound : Found} (held : HeldTwin twins.toRules closer found otherFound)
include held

theorem writeItems_twin {call other : Call} (names : other.names = call.names)
    {body otherBody : List Block → Render String}
    (inside : ∀ block otherBlock, OwnBlock twins.toRules closer block otherBlock →
      (body (block :: call.blocks)).Twin twins closer Same (otherBody (otherBlock :: other.blocks)))
    {all : List Helper.Item} (listed : Helper.items? found.json = some all) (items : List Helper.Item)
    (members : items ⊆ all) (position : Nat) :
    (Helper.writeItems call found body position items).Twin twins closer Same
      (Helper.writeItems other otherFound otherBody position items) := by
  induction items generalizing position with
  | nil => exact .pure rfl
  | cons entry items ih =>
    unfold Helper.writeItems
    rw [names]
    have block := held.itemBlock call.names listed (members List.mem_cons_self) position items.isEmpty
    refine .bind (inside _ _ block) fun text _ same => ?_
    refine .bind (ih (fun _ member => members (List.mem_cons_of_mem _ member)) (position + 1)) fun rest _ equal => ?_
    exact .pure (by rw [Same, same, equal])

end

section
variable {params : List Argument} {call other : Call} {moment otherMoment : Moment}
  (opened : Opened twins watch scope params moment.state.bindings call.params other.params)
  (name : other.name = call.name) (names : other.names = call.names) (isBlock : other.isBlock = call.isBlock)
  (alike : Alike twins watch moment otherMoment)
  (inside : ∀ closer, Holding twins watch scope params closer → ∀ block otherBlock,
    OwnBlock twins.toRules closer block otherBlock →
      (Call.part call.body (block :: call.blocks)).Twin twins closer Same
        (Call.part other.body (otherBlock :: other.blocks)))
  (inverse : call.writeInverse.Twin twins watch Same other.writeInverse)
include opened name names alike inside inverse

theorem writeWithin_meets : (Helper.writeWithin call).Meets twins watch (fun _ => Same) (Helper.writeWithin other)
    moment otherMoment := by
  rw [writeWithin_eq, writeWithin_eq]
  unfold Call.param
  rw [name, names]
  generalize call.params = values at opened ⊢
  generalize other.params = otherValues at opened ⊢
  cases opened with
  | nothing => exact .bind (Render.Twin.fail (fun _ _ => False) _ _ _ alike) fun _ _ _ _ impossible => impossible.elim
  | @held closer found otherFound values others holding held kept =>
    simp only [List.getElem?_cons_zero, pure_bind, held.json]
    split
    · refine .locally alike (.of_inner holding.more ?_)
      exact inside closer holding _ _ (held.valueBlock call.names) _ _ { alike with kept }
    · exact inverse _ _ alike

include isBlock in
theorem writeEach_meets : (Helper.writeEach call).Meets twins watch (fun _ => Same) (Helper.writeEach other)
    moment otherMoment := by
  unfold Helper.writeEach Call.param
  rw [name]
  generalize call.params = values at opened ⊢
  generalize other.params = otherValues at opened ⊢
  cases opened with
  | nothing => exact .bind (Render.Twin.fail (fun _ _ => False) _ _ _ alike) fun _ _ _ _ impossible => impossible.elim
  | @held closer found otherFound values others holding held kept =>
    simp only [List.getElem?_cons_zero, pure_bind, held.json]
    unfold Call.isBlock at isBlock
    cases body : call.body with
    | none =>
      rw [body] at isBlock
      have otherBody : other.body = none := Option.not_isSome_iff_eq_none.mp (by rw [isBlock]; exact Bool.false_ne_true)
      rw [otherBody]
      exact .pure alike rfl
    | some write =>
      rw [body] at isBlock
      obtain ⟨otherWrite, otherBody⟩ := Option.isSome_iff_exists.mp isBlock
      rw [body, otherBody] at inside
      rw [otherBody]
      rcases listed : Helper.items? found.json with _ | _ | ⟨item, items⟩
      · exact inverse _ _ alike
      · exact inverse _ _ alike
      · refine .locally alike (.of_inner holding.more ?_)
        exact writeItems_twin held names (inside closer holding) listed _ (List.Subset.refl _) 0 _ _ { alike with kept }

end

/-- The call of a block, whose body may be about the first argument. -/
theorem blockCall_meets {blocks others : List Block} (placed : Placed twins watch scope blocks others) {e : Expression}
    (spares : e.CallSpares twins.toRules scope) {moment otherMoment : Moment}
    (alike : Alike twins watch moment otherMoment) :
    (call twins.setting blocks e).Meets twins watch
      (fun later call other => Called twins.guarded e blocks others call other ∧
        (e.Holds twins.toRules scope →
          Opened twins watch scope e.params later.state.bindings call.params other.params))
      (call twins.otherSetting others e) moment otherMoment := by
  by_cases holds : e.Holds twins.toRules scope
  · exact (call_meets placed spares holds alike).imp fun _ _ _ both => ⟨both.1, fun _ => both.2⟩
  · exact Render.Meets.imp (call_twin placed spares _ _ alike) fun _ _ _ called =>
      ⟨called, fun holding => absurd holding holds⟩

/-- A helper writes its block. -/
theorem writeBlock_meets {blocks others : List Block} {e : Expression} {call other : Call}
    (called : Called twins.guarded e blocks others call other) {helper : Helper}
    (registered : helper.Registered twins.host) (spares : helper.Spares twins.toRules scope e.params e.hash)
    (fits : ∀ name, scope.free name → watch.free name) {moment otherMoment : Moment}
    (alike : Alike twins watch moment otherMoment)
    (opened : helper.Opens → Opened twins watch scope e.params moment.state.bindings call.params other.params)
    {names : List String} {body otherBody : List Block → Render String}
    {inverse otherInverse : Option (List Block → Render String)}
    (plain : ¬ helper.Opens → (body blocks).Twin twins watch Same (otherBody others))
    (inside : helper.Opens → ∀ closer, Holding twins watch scope e.params closer → ∀ block otherBlock,
      OwnBlock twins.toRules closer block otherBlock →
        (body (block :: blocks)).Twin twins closer Same (otherBody (otherBlock :: others)))
    (written : (Call.part inverse blocks).Twin twins watch Same (Call.part otherInverse others)) :
    (helper.write twins.host { call with names, body := some body, inverse }).Meets twins watch (fun _ => Same)
      (helper.write twins.host { other with names, body := some otherBody, inverse := otherInverse })
      moment otherMoment := by
  rw [← called.blocks.1, ← called.blocks.2] at plain inside written
  by_cases opens : helper.Opens
  · have held := opened opens
    have within := inside opens
    rcases opens with rfl | rfl
    · exact writeEach_meets held called.twin.name rfl rfl alike within written
    · exact writeWithin_meets held called.twin.name rfl alike within written
  · have twin : CallTwin twins.guarded e.params e.hash { call with names, body := some body, inverse }
        { other with names, body := some otherBody, inverse := otherInverse } :=
      ⟨called.twin.name, rfl, called.twin.params, called.twin.hash⟩
    exact Render.Twin.writePlain twin fits registered spares ⟨rfl, plain opens, written⟩ opens _ _ alike

end PromptKernel.Template
