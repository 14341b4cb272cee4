import PromptKernel.Proofs.CallTree
import PromptKernel.Proofs.LeftmostSegments

/-! The turns that template functions submit. The rendered text is read inside of a wrapper. A tag that breaks
off at one end of the text is not completed by the wrapper, since the wrapper goes on with an angle that stands
in no tag but in front, and the wrapper holds no tags itself. So the turns are those of the text alone. -/

namespace PromptKernel

/-- A pattern whose first character does not come again lies on one side of that character. -/
theorem Text.infix_or_infix_of_append {first : Char} {others text more : List Char} (fresh : first ∉ others)
    (inside : first :: others <:+: text ++ first :: more) :
    first :: others <:+: text ∨ first :: others <:+: first :: more := by
  induction text with
  | nil => exact .inr inside
  | cons c text ih =>
    rcases List.infix_cons_iff.mp inside with start | later
    · exact .inl (prefix_of_prefix_append_cons fresh (List.cons_ne_nil c text) start).isInfix
    · rcases ih later with left | right
      · exact .inl (List.infix_cons left)
      · exact .inr right

namespace Transcript

/-- A text that is put behind another one starts like a tag, but holds no closing one. -/
def EndsTags (tail : List Char) : Prop :=
  (∃ more, tail = '<' :: more) ∧ ∀ role : Role, ¬role.closingTag <:+: tail

theorem Opens.of_append {role : Role} {text tail : List Char} (ends : EndsTags tail) (nonempty : text ≠ [])
    (opens : Opens role (text ++ tail)) : Opens role text := by
  obtain ⟨⟨more, rfl⟩, free⟩ := ends
  obtain ⟨body, whole, closed⟩ := opens
  have start : role.openingTag <+: text :=
    Text.prefix_of_prefix_append_cons role.angle_notMem_openingRest nonempty ⟨body, whole.symm⟩
  obtain ⟨inner, rfl⟩ := start
  rw [List.append_assoc] at whole
  obtain rfl := List.append_cancel_left whole
  rcases Text.infix_or_infix_of_append role.angle_notMem_closingRest closed with inside | behind
  · exact ⟨inner, rfl, inside⟩
  · exact absurd behind (free role)

/-- Behind the text nothing more is read, and nothing in the text is read differently. -/
theorem extractFrom_append {tail : List Char} (ends : EndsTags tail) (text : List Char) :
    extractFrom (text ++ tail) = extractFrom text ++ extractFrom tail := by
  induction text using extractFrom.induct with
  | case1 => simp [extractFrom]
  | case2 c text turn rest found ih =>
    have leads := segment?_eq_some_iff.mp found
    have unclosed := not_infix_of_segment? found
    rw [extractFrom_of_leads leads, leads.written, List.append_assoc, extractFrom_tagged unclosed, ih]
    rfl
  | case3 c text missing ih =>
    have never := segment?_eq_none_iff.mp missing
    have still : ∀ role, ¬Opens role (c :: (text ++ tail)) := fun role opens =>
      never role (opens.of_append ends (List.cons_ne_nil c text))
    rw [List.cons_append, extractFrom_cons still, ih, extractFrom_cons never]

/-- The wrapper opens with no tag. -/
theorem extractFrom_requestStart (rest : List Char) : extractFrom ("<request>".toList ++ rest) = extractFrom rest := by
  have never : ∀ role, ¬Opens role ('<' :: ("request>".toList ++ rest)) := by
    rintro role ⟨body, whole, -⟩
    cases role <;> exact absurd (List.cons.inj (List.cons.inj whole).2).1 (by decide)
  have plain : '<' ∉ "request>".toList := by decide +kernel
  calc extractFrom ("<request>".toList ++ rest)
    _ = extractFrom ('<' :: ("request>".toList ++ rest)) := rfl
    _ = extractFrom ("request>".toList ++ rest) := extractFrom_cons never
    _ = extractFrom rest := extractFrom_append_of_not_mem plain rest

theorem extract_request (text : String) : extract (request text) = extract text := by
  have ends : EndsTags "</request>".toList := by
    refine ⟨⟨"/request>".toList, by decide +kernel⟩, ?_⟩
    intro role
    cases role <;> decide +kernel
  have nothing : extractFrom "</request>".toList = [] := by decide +kernel
  unfold extract request
  rw [String.toList_append, String.toList_append, List.append_assoc, extractFrom_requestStart,
    extractFrom_append ends, nothing, List.append_nil]

end Transcript

namespace Kernel

/-- The wrapper of a request makes no difference to the turns in it, wherever the text breaks off. So a template
function that has rendered its template submits just the turns of the rendered text, if anything. -/
theorem request_wrapper_neutral :
    (∀ text, Transcript.extract ("<request>" ++ text ++ "</request>") = Transcript.extract text) ∧
    ∀ (kernel : Kernel) (invoke : Invoke) (definition : Definition) (start : State),
      let final := (kernel.execute invoke (.template definition) start).2
      match templateOf definition, kernel.serviceFor definition with
      | .ok template, .ok _ =>
        match Template.render (kernel.host invoke) template start with
        | (.error _, after) => final.completions = after.completions
        | (.ok text, after) =>
          if after.cancelled then final.completions = after.completions
          else ∃ completion, final.completions = after.completions ++ [completion] ∧
            completion.turns = Transcript.extract text
      | _, _ => final.completions = start.completions := by
  refine ⟨Transcript.extract_request, ?_⟩
  intro kernel invoke definition start final
  have ran : final = (kernel.runTemplate invoke definition start).2 := rfl
  rw [ran, runTemplate_apply]
  cases templateOf definition with
  | error error => rfl
  | ok template =>
    cases kernel.serviceFor definition with
    | error error => rfl
    | ok choice =>
      dsimp only
      rcases Template.render (kernel.host invoke) template start with ⟨error | text, after⟩
      · rfl
      · dsimp only
        split
        · rfl
        · exact ⟨_, rfl, Transcript.extract_request text⟩

end Kernel

end PromptKernel
