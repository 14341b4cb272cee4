import PromptKernel.Proofs.RenderLogic

/-! Renderings on hosts that agree. Nothing but the meaning of names and the calls of functions connects a
rendering to its host, and no call reaches its function once the run is cancelled. -/

namespace PromptKernel.Template

/-- The two hosts are the same as far as templates can tell: names mean the same helpers, the same names
could be functions, and calls of functions do the same. -/
structure Host.Alike (host other : Host) : Prop where
  named : ∀ name, Helper.ofName? host.functions name = Helper.ofName? other.functions name
  grouped : ∀ name, Helper.isInGroup host.functions name = Helper.isInGroup other.functions name
  called : ∀ function ∈ host.functions, ∀ arguments,
    Helper.dispatch host function arguments = Helper.dispatch other function arguments

namespace Host.Alike
variable {host other : Host} (alike : host.Alike other)
include alike

theorem callFunction {function : Function} (member : function ∈ host.functions) :
    Helper.callFunction host function = Helper.callFunction other function := by
  funext call
  unfold Helper.callFunction
  simp only [alike.called function member]

theorem writeMissing : Helper.writeMissing host = Helper.writeMissing other := by
  funext call
  unfold Helper.writeMissing
  rw [alike.grouped]

section
variable {helper : Helper} (registered : helper.Registered host)
include registered

theorem value? : helper.value? host = helper.value? other := by
  funext call
  cases helper with
  | function function =>
    simp only [Helper.value?, alike.callFunction (registered function rfl)]
  | _ => rfl

theorem write : helper.write host = helper.write other := by
  funext call
  cases helper with
  | function function =>
    simp only [Helper.write, alike.callFunction (registered function rfl)]
  | missing => exact congrFun alike.writeMissing call
  | _ => rfl

theorem evaluate : helper.evaluate host = helper.evaluate other := by
  funext call
  unfold Helper.evaluate
  rw [alike.value? registered, alike.write registered]

end

theorem evaluate_getD (name : String) :
    ((Helper.ofName? host.functions name).getD .missing).evaluate host =
      ((Helper.ofName? other.functions name).getD .missing).evaluate other := by
  rw [alike.evaluate (Helper.registered_getD host name), alike.named]

theorem write_getD (name : String) :
    ((Helper.ofName? host.functions name).getD .missing).write host =
      ((Helper.ofName? other.functions name).getD .missing).write other := by
  rw [alike.write (Helper.registered_getD host name), alike.named]

variable (context : Json)

omit alike in
mutual

theorem evaluateArgument (alike : host.Alike other) (blocks : List Block) (argument : Argument) :
    Template.evaluate ⟨host, context⟩ blocks argument =
      Template.evaluate ⟨other, context⟩ blocks argument :=
  match argument with
  | .name _ | .path _ | .literal _ => rfl
  | .call name params hash => by
    simp only [Template.evaluate, evaluateAll alike blocks params, evaluateHash alike blocks hash,
      alike.evaluate_getD]

theorem evaluateAll (alike : host.Alike other) (blocks : List Block) (arguments : List Argument) :
    Template.evaluateAll ⟨host, context⟩ blocks arguments =
      Template.evaluateAll ⟨other, context⟩ blocks arguments :=
  match arguments with
  | [] => rfl
  | argument :: arguments => by
    simp only [Template.evaluateAll, evaluateArgument alike blocks argument, evaluateAll alike blocks arguments]

theorem evaluateHash (alike : host.Alike other) (blocks : List Block)
    (hash : List (String × Argument)) :
    Template.evaluateHash ⟨host, context⟩ blocks hash =
      Template.evaluateHash ⟨other, context⟩ blocks hash :=
  match hash with
  | [] => rfl
  | (_, argument) :: hash => by
    simp only [Template.evaluateHash, evaluateArgument alike blocks argument, evaluateHash alike blocks hash]

end

theorem nameOf (blocks : List Block) (argument : Argument) :
    Template.nameOf ⟨host, context⟩ blocks argument =
      Template.nameOf ⟨other, context⟩ blocks argument := by
  unfold Template.nameOf
  simp only [alike.evaluateArgument context]

theorem call (blocks : List Block) (e : Expression) :
    Template.call ⟨host, context⟩ blocks e = Template.call ⟨other, context⟩ blocks e := by
  unfold Template.call
  simp only [alike.nameOf context, alike.evaluateAll context, alike.evaluateHash context]

theorem writeCall (blocks : List Block) (e : Expression) :
    Template.writeCall ⟨host, context⟩ blocks e =
      Template.writeCall ⟨other, context⟩ blocks e := by
  unfold Template.writeCall
  simp only [alike.call context, alike.write_getD]

theorem writeOutput (blocks : List Block) (e : Expression) :
    Template.writeOutput ⟨host, context⟩ blocks e =
      Template.writeOutput ⟨other, context⟩ blocks e := by
  unfold Template.writeOutput
  simp only [alike.writeCall context, alike.nameOf context, alike.evaluateArgument context, alike.call context,
    alike.writeMissing, alike.named]

variable (included : Renderer)

omit alike in
mutual

theorem renderElement (alike : host.Alike other) (element : Element) (blocks : List Block) :
    Template.renderElement ⟨host, context⟩ included element blocks =
      Template.renderElement ⟨other, context⟩ included element blocks :=
  match element with
  | .text _ => rfl
  | .output e => alike.writeOutput context blocks e
  | .block e names ownLine body inverse => by
    have main : Template.renderElements ⟨host, context⟩ included body =
        Template.renderElements ⟨other, context⟩ included body :=
      funext fun blocks => renderElements alike body blocks
    rw [Template.renderElement, Template.renderElement, alike.call context, main, renderInverse alike inverse]
    refine bind_congr fun call => ?_
    dsimp only
    rw [← alike.named]
    cases found : Helper.ofName? host.functions call.name with
    | none => rfl
    | some helper =>
      have registered : helper.Registered host := Helper.registered_of_ofName? found
      dsimp only
      rw [alike.write registered]
  | .decorator e body => by
    rw [Template.renderElement, Template.renderElement, alike.call context]
  | .inclusion e indent ownLine body => by
    rw [Template.renderElement, Template.renderElement, alike.call context]
    simp only [renderBody alike body]
    rfl
termination_by structural element

theorem renderElements (alike : host.Alike other) (elements : List Element) (blocks : List Block) :
    Template.renderElements ⟨host, context⟩ included elements blocks =
      Template.renderElements ⟨other, context⟩ included elements blocks :=
  match elements with
  | [] => rfl
  | element :: elements => by
    rw [Template.renderElements, Template.renderElements, renderElement alike element]
    simp only [renderElements alike elements]
termination_by structural elements

theorem renderInverse (alike : host.Alike other) (inverse : Option (List Element)) :
    Template.renderInverse ⟨host, context⟩ included inverse =
      Template.renderInverse ⟨other, context⟩ included inverse :=
  match inverse with
  | none => rfl
  | some body => congrArg some (funext fun blocks => renderElements alike body blocks)
termination_by structural inverse

theorem renderBody (alike : host.Alike other) (body : Option (List Element)) (blocks : List Block) :
    Template.renderBody ⟨host, context⟩ included body blocks =
      Template.renderBody ⟨other, context⟩ included body blocks :=
  match body with
  | none => rfl
  | some body => by
    rw [Template.renderBody, Template.renderBody, renderElements alike body]
termination_by structural body

end

omit included in
theorem renderWithin (depth : Nat) : Template.renderWithin ⟨host, context⟩ depth =
    Template.renderWithin ⟨other, context⟩ depth := by
  induction depth with
  | zero => rfl
  | succ depth ih =>
    funext elements blocks
    rw [Template.renderWithin, Template.renderWithin, ih]
    exact alike.renderElements context _ elements blocks

omit included context in
theorem render (source : String) :
    Template.render host source = Template.render other source := by
  cases read : read? source with
  | none => rw [render_of_unreadable read, render_of_unreadable read]
  | some elements =>
    rw [render_of_read? read, render_of_read? read]
    funext state
    rw [renderTree_apply, renderTree_apply, alike.renderWithin]

end Host.Alike

/-- Two ways to call the functions are the same as far as templates can tell. -/
def CallAlike (functions : List Function) (invoke other : Function → Run Result) : Prop :=
  ∀ function ∈ functions, ∀ arguments,
    Helper.dispatch ⟨functions, invoke⟩ function arguments = Helper.dispatch ⟨functions, other⟩ function arguments

theorem CallAlike.render {functions : List Function} {invoke other : Function → Run Result}
    (alike : CallAlike functions invoke other) (source : String) :
    Template.render ⟨functions, invoke⟩ source = Template.render ⟨functions, other⟩ source := by
  have hosts : Host.Alike ⟨functions, invoke⟩ ⟨functions, other⟩ := ⟨fun _ => rfl, fun _ => rfl, alike⟩
  exact hosts.render source

end PromptKernel.Template
