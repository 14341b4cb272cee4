import PromptKernel.Proofs.RunEvents

/-! Sequences of events. Such a sequence heeds the cancellation if nothing in it overruns the cancellation and
nothing is prevented before. It explains how a run ends if nothing goes wrong in it, or just one thing does
that all functions under way are left for. -/

namespace PromptKernel

namespace Event

def cancels : Event → Bool
  | cancel => true
  | _ => false

/-- What may not happen any more in a cancelled run. Handlers that call a function directly are on
their own. -/
def overruns : Event → Bool
  | ask _ | enter _ .outside | enter _ .template => true
  | enter _ .handler | leave _ | cancel | raise _ => false

/-- The cancellation keeps something from happening. -/
def prevents : Event → Bool
  | raise (.cancellation _) => true
  | _ => false

/-- Happens after an error as well, when functions are left because of it. -/
def winds : Event → Bool
  | leave _ | cancel => true
  | enter _ _ | ask _ | raise _ => false

def completion? : Event → Option Completion
  | ask completion => some completion
  | _ => none

end Event

/-! Heeding the cancellation. -/

/-- Nothing is prevented before the cancellation, and nothing overruns it. -/
def Orderly : Bool → List Event → Prop
  | _, [] => True
  | cancelled, event :: events =>
    (if cancelled then event.overruns = false else event.prevents = false) ∧
      Orderly (cancelled || event.cancels) events

theorem Orderly.append_iff {cancelled : Bool} {events later : List Event} : Orderly cancelled (events ++ later) ↔
    Orderly cancelled events ∧ Orderly (cancelled || events.any Event.cancels) later := by
  induction events generalizing cancelled with
  | nil => simp [Orderly]
  | cons event events ih =>
    rw [List.cons_append, Orderly, ih, Orderly, List.any_cons, Bool.or_assoc, and_assoc]

theorem Orderly.singleton {cancelled : Bool} {event : Event} (overruns : event.overruns = true → cancelled = false)
    (prevents : event.prevents = true → cancelled = true) : Orderly cancelled [event] := by
  refine ⟨?_, trivial⟩
  cases cancelled with
  | true => exact Bool.eq_false_iff.mpr fun same => nomatch overruns same
  | false => exact Bool.eq_false_iff.mpr fun same => nomatch prevents same

/-- The events heed the cancellation, and the states before and after are witnesses to them. -/
structure Heeds (state : State) (events : List Event) (after : State) : Prop where
  cancelled : after.cancelled = (state.cancelled || events.any Event.cancels)
  completions : after.completions = state.completions ++ events.filterMap Event.completion?
  orderly : Orderly state.cancelled events

namespace Heeds
variable {state middle after : State} {events later : List Event}

theorem trans (begun : Heeds state events middle) (rest : Heeds middle later after) :
    Heeds state (events ++ later) after where
  cancelled := by rw [rest.cancelled, begun.cancelled, List.any_append, Bool.or_assoc]
  completions := by rw [rest.completions, begun.completions, List.filterMap_append, List.append_assoc]
  orderly := by
    rw [Orderly.append_iff, ← begun.cancelled]
    exact ⟨begun.orderly, rest.orderly⟩

/-- Variables have nothing to do with it. -/
theorem nil (cancelled : after.cancelled = state.cancelled) (completions : after.completions = state.completions) :
    Heeds state [] after :=
  ⟨by simpa using cancelled, by simpa using completions, trivial⟩

theorem enter (state : State) (function : FunctionRef) {entrance : Entrance}
    (allowed : state.cancelled = true → entrance = .handler) : Heeds state [.enter function entrance] state := by
  refine ⟨by simp [Event.cancels], by simp [Event.completion?], .singleton (fun overruns => ?_) nofun⟩
  refine Bool.eq_false_iff.mpr fun cancelled => ?_
  rw [allowed cancelled] at overruns
  cases overruns

theorem leave (state : State) (function : FunctionRef) : Heeds state [.leave function] state :=
  ⟨by simp [Event.cancels], by simp [Event.completion?], .singleton nofun nofun⟩

theorem cancel (state : State) : Heeds state [.cancel] { state with cancelled := true } :=
  ⟨by simp [Event.cancels], by simp [Event.completion?], .singleton nofun nofun⟩

theorem ask {state : State} (running : state.cancelled = false) (completion : Completion)
    (arrived : List Http.Request) : Heeds state [.ask completion] { state with
      completions := state.completions ++ [completion], arrived } :=
  ⟨by simp [Event.cancels], by simp [Event.completion?], .singleton (fun _ => running) nofun⟩

/-- Only a cancelled run keeps something from happening. -/
theorem raise (state : State) (cause : Cause) (justified : ∀ prevented, cause = .cancellation prevented →
    state.cancelled = true) : Heeds state [.raise cause] state := by
  refine ⟨by simp [Event.cancels], by simp [Event.completion?], .singleton nofun fun prevents => ?_⟩
  cases cause with
  | cancellation prevented => exact justified prevented rfl
  | _ => cases prevents

end Heeds

/-! Functions that are under way. -/

/-- The error as it leaves functions that called each other, the outermost one first. -/
def Error.within (error : Error) (under : List FunctionRef) : Error :=
  under.foldr (fun ref source => .inFunction ref.group ref.name source) error

def Event.shift (under : List FunctionRef) : Event → List FunctionRef
  | enter function _ => under ++ [function]
  | leave _ => under.dropLast
  | ask _ | cancel | raise _ => under

/-- The functions that were entered and not left again, the outermost one first. -/
def underWay (under : List FunctionRef) (events : List Event) : List FunctionRef := events.foldl Event.shift under

theorem underWay_append (under : List FunctionRef) (events later : List Event) :
    underWay under (events ++ later) = underWay (underWay under events) later := List.foldl_append

/-- Nothing goes wrong, and every function that is entered is left. -/
structure Quiet (events : List Event) : Prop where
  silent : ∀ cause, .raise cause ∉ events
  closed : ∀ under, underWay under events = under

namespace Quiet

theorem nil : Quiet [] := ⟨fun _ => List.not_mem_nil, fun _ => rfl⟩

theorem append {events later : List Event} (begun : Quiet events) (rest : Quiet later) :
    Quiet (events ++ later) where
  silent cause raised := by
    rcases List.mem_append.mp raised with first | second
    · exact begun.silent cause first
    · exact rest.silent cause second
  closed under := by rw [underWay_append, begun.closed, rest.closed]

theorem ask (completion : Completion) : Quiet [.ask completion] :=
  ⟨fun _ raised => by simp at raised, fun _ => rfl⟩

theorem cancel : Quiet [.cancel] := ⟨fun _ raised => by simp at raised, fun _ => rfl⟩

theorem call {events : List Event} (function : FunctionRef) (entrance : Entrance) (inside : Quiet events) :
    Quiet (.enter function entrance :: (events ++ [.leave function])) where
  silent cause raised := by
    simp only [List.mem_cons, reduceCtorEq, List.mem_append, List.not_mem_nil, or_false, false_or] at raised
    exact inside.silent cause raised
  closed under := by
    change underWay (under ++ [function]) (events ++ [.leave function]) = under
    rw [underWay_append, inside.closed]
    exact List.dropLast_concat

end Quiet

/-- One thing goes wrong, and its error is what it becomes outside of the functions that are left for it. -/
inductive Fails : List Event → Error → Prop
  | raise (cause : Cause) : Fails [.raise cause] cause.error
  | after (quiet : Quiet events) (failed : Fails later error) : Fails (events ++ later) error
  | before (failed : Fails events error) (winding : ∀ event ∈ later, event.winds = true) :
      Fails (events ++ later) error
  | call (function : FunctionRef) (entrance : Entrance) (inside : Fails events error) :
      Fails (.enter function entrance :: (events ++ [.leave function]))
        (.inFunction function.group function.name error)

/-- The error goes back to one cause, before which nothing went wrong and after which functions are only left.
It names the functions that were under way then. -/
theorem Fails.origin {events : List Event} {error : Error} (failed : Fails events error) :
    ∃ before cause later inner, events = before ++ .raise cause :: later ∧
      (∀ cause, .raise cause ∉ before) ∧ (∀ event ∈ later, event.winds = true) ∧
      error = cause.error.within inner ∧ ∀ under, underWay under before = under ++ inner := by
  induction failed with
  | raise cause =>
    exact ⟨[], cause, [], [], rfl, fun _ => List.not_mem_nil, nofun, rfl, fun under => (List.append_nil under).symm⟩
  | @after events later error quiet _ ih =>
    obtain ⟨before, cause, rest, inner, rfl, silent, winding, same, under⟩ := ih
    refine ⟨events ++ before, cause, rest, inner, by rw [List.append_assoc], ?_, winding, same, ?_⟩
    · intro cause member
      rcases List.mem_append.mp member with first | second
      · exact quiet.silent cause first
      · exact silent cause second
    · intro outer
      -- Every function that the quiet events enter is left again.
      rw [underWay_append, quiet.closed, under]
  | @before events error later _ last ih =>
    obtain ⟨before, cause, rest, inner, rfl, silent, winding, same, under⟩ := ih
    refine ⟨before, cause, rest ++ later, inner, by rw [List.append_assoc]; rfl, silent, ?_, same, under⟩
    intro event member
    exact (List.mem_append.mp member).elim (winding event) (last event)
  | @call events error function entrance _ ih =>
    obtain ⟨before, cause, rest, inner, rfl, silent, winding, rfl, under⟩ := ih
    refine ⟨.enter function entrance :: before, cause, rest ++ [.leave function], function :: inner,
      by simp, ?_, ?_, rfl, ?_⟩
    · intro cause member
      rcases List.mem_cons.mp member with impossible | inside
      · cases impossible
      · exact silent cause inside
    · intro event member
      rcases List.mem_append.mp member with inside | last
      · exact winding event inside
      · obtain rfl := List.mem_singleton.mp last
        rfl
    · intro outer
      change underWay (outer ++ [function]) before = _
      rw [under, List.append_assoc]
      rfl

/-- The events account for how the run ends. -/
def Explains (events : List Event) : Option Error → Prop
  | none => Quiet events
  | some error => Fails events error

namespace Explains
variable {events later : List Event} {outcome : Option Error}

theorem after (quiet : Quiet events) (rest : Explains later outcome) : Explains (events ++ later) outcome := by
  cases outcome with
  | none => exact quiet.append rest
  | some error => exact Fails.after quiet rest

theorem call (function : FunctionRef) (entrance : Entrance) (inside : Explains events outcome) :
    Explains (.enter function entrance :: (events ++ [.leave function]))
      (outcome.map (.inFunction function.group function.name)) := by
  cases outcome with
  | none => exact Quiet.call function entrance inside
  | some error => exact Fails.call function entrance inside

end Explains

end PromptKernel
