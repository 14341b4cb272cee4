import PromptKernel.Function.Script
import PromptKernel.Proofs.BuiltKernels
import PromptKernel.Proofs.RenderRecords

/-! Handlers that hand on the errors of what they call, as scripts do. -/

namespace PromptKernel

/-- The error that a handler is answered with. -/
def Request.failure? : (request : Request) → request.Answer → Option Error
  | .invoke _ _, answer => PromptKernel.failure? answer
  | .render _, answer => PromptKernel.failure? answer
  | .get _, _ | .set _ _, _ | .remove _, _ | .bindings, _ | .functions, _ | .services, _ => none
  | .cancel, _ | .isCancelled, _ => none

/-- The program fails with the error, whatever answers it gets. On the way it asks for nothing that can
fail. -/
inductive Program.FailsWith (error : Error) : Program α → Prop
  | fail : FailsWith error (.fail error)
  | ask {request : Request} {next : request.Answer → Program α} (safe : ∀ answer, request.failure? answer = none)
      (rest : ∀ answer, FailsWith error (next answer)) : FailsWith error (.ask request next)

/-- Once a call or a rendering fails, all of the program fails with that error. -/
inductive Program.PassesOn : Program α → Prop
  | done : PassesOn (.done value)
  | fail : PassesOn (.fail error)
  | ask {request : Request} {next : request.Answer → Program α}
      (handed : ∀ answer error, request.failure? answer = some error → (next answer).FailsWith error)
      (rest : ∀ answer, request.failure? answer = none → PassesOn (next answer)) : PassesOn (.ask request next)

def Function.PassesOn : Function → Prop
  | template _ => True
  | native _ handler => ∀ arguments, (handler arguments).PassesOn

def Kernel.PassesOn (kernel : Kernel) : Prop := ∀ function ∈ kernel.functions, function.PassesOn

namespace Program.PassesOn

theorem bind {program : Program α} {next : α → Program β} (first : program.PassesOn)
    (rest : ∀ value, (next value).PassesOn) : (program.bind next).PassesOn := by
  have failing {error : Error} {program : Program α} (fails : program.FailsWith error) :
      (program.bind next).FailsWith error := by
    induction fails with
    | fail => exact .fail
    | ask safe _ ih => exact .ask safe ih
  induction first with
  | done => exact rest _
  | fail => exact .fail
  | ask handed _ ih => exact .ask (fun answer error failed => failing (handed answer error failed)) ih

theorem ofExcept (outcome : Except Error α) : (Program.ofExcept outcome).PassesOn := by
  cases outcome with
  | error error => exact .fail
  | ok value => exact .done

/-- A request whose outcome the program ends with. -/
theorem answer {request : Request} {outcome : request.Answer → Except Error α}
    (same : ∀ answer, failure? (outcome answer) = request.failure? answer) :
    (Program.ask request fun answer => .ofExcept (outcome answer)).PassesOn := by
  refine .ask (fun answer error failed => ?_) (fun answer _ => ofExcept _)
  rw [← same] at failed
  cases ended : outcome answer with
  | error fault =>
    rw [ended] at failed
    cases failed
    exact .fail
  | ok value => rw [ended] at failed; cases failed

theorem safe {request : Request} {next : request.Answer → Program α}
    (safe : ∀ answer, request.failure? answer = none)
    (rest : ∀ answer, (next answer).PassesOn) : (Program.ask request next).PassesOn :=
  .ask (fun answer error failed => by rw [safe] at failed; cases failed) fun answer _ => rest answer

end Program.PassesOn

mutual

/-- Scripts deal with no errors. -/
theorem Script.passesOn (arguments : Fields Json) (script : Script) : (script.program arguments).PassesOn :=
  match script with
  | .const _ | .arguments | .argument _ => .done
  | .parse _ _ => .ofExcept _
  | .sum => .bind (.ofExcept _) fun a => .bind (.ofExcept _) fun b => by
    split
    · exact .done
    · exact .fail
  | .add _ _ => .bind (.ofExcept _) fun n => .bind (.safe (fun _ => rfl) fun _ => .done) fun _ => .done
  | .fail _ => .fail
  | .set _ _ | .remove _ | .get _ | .bindings | .functions | .services | .cancel => .safe (fun _ => rfl) fun _ => .done
  | .check => .safe (fun _ => rfl) fun cancelled => by
    change Bool at cancelled
    cases cancelled
    · exact .done
    · exact .fail
  | .invoke _ _ | .render _ => .answer fun answer => failure?_map answer _
  | .sequence steps => Script.programs_passOn arguments .null steps

theorem Script.programs_passOn (arguments : Fields Json) (last : Json) (steps : List Script) :
    (Script.programs arguments last steps).PassesOn :=
  match steps with
  | [] => .done
  | step :: steps => .bind (Script.passesOn arguments step) fun value => Script.programs_passOn arguments value steps

end

end PromptKernel
