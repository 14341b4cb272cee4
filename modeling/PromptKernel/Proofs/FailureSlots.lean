import PromptKernel.Proofs.RenderRecords

/-! How errors get out of a rendering. The engine carries only texts, so that helpers leave their errors in a
slot of the rendering and tell the engine just to give up. Afterwards the error in the slot is handed back,
and without one what the engine reports. This comes to the same as errors that are carried through. -/

namespace PromptKernel.Template

/-- What the engine is told when it has to give up. -/
inductive Report
  /-- A helper has failed, for a reason that it leaves in the slot. -/
  | failed (error : Error)
  | fault (fault : EngineFault)

structure FailureSlot where
  kept : Option Error := none

namespace FailureSlot

/-- The first error stays. -/
def fail (slot : FailureSlot) (error : Error) : FailureSlot := { kept := slot.kept <|> some error }

def hear (slot : FailureSlot) : Report → FailureSlot
  | .failed error => slot.fail error
  | .fault _ => slot

end FailureSlot

/-- The errors that helpers leave are their own and those of the functions that they call. -/
def Recorder.reports (host : Host) : Recorder Report where
  fault fault := [.fault fault]
  complaint name complaint := [.failed (complaint.error name)]
  assign _ _ := []
  dispatch function arguments state :=
    (failure? (Helper.dispatch host function arguments state).1).toList.map .failed

def renderReports (host : Host) (source : String) (state : State) : List Report :=
  renderRecord (.reports host) host source state

/-- The error that is handed back after these reports, if there is one. Faults of the engine are translated. -/
def handBack (reports : List Report) : Option Error :=
  (reports.foldl FailureSlot.hear {}).kept <|> reports.findSome? fun report =>
    match report with
    | .failed _ => none
    | .fault fault => some fault.error

/-- A rendering that fails does so with its only report. -/
def reporting : Course Report := fun _ reports outcome _ =>
  handBack reports = outcome ∧ (outcome = none → reports = [])

theorem reporting_legal (host : Host) : Legal reporting (.reports host) host where
  stay _ := ⟨rfl, fun _ => rfl⟩
  trans := by
    rintro state middle after reports later outcome ⟨-, nothing⟩ rest
    rwa [nothing rfl]
  fault _ _ := ⟨rfl, nofun⟩
  complaint _ _ _ := ⟨rfl, nofun⟩
  assign _ _ _ := ⟨rfl, fun _ => rfl⟩
  dispatch state function arguments _ := by
    unfold Recorder.reports
    dsimp only
    cases failure? (Helper.dispatch host function arguments state).1 with
    | none => exact ⟨rfl, fun _ => rfl⟩
    | some error => exact ⟨rfl, nofun⟩

theorem failure?_render (host : Host) (source : String) (state : State) :
    failure? (render host source state).1 = handBack (renderReports host source state) :=
  (render_takes (reporting_legal host) source state).1.symm

end PromptKernel.Template
