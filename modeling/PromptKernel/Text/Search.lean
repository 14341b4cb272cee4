/-! Cutting a text at the first occurrence of a pattern. The statements say that the cut loses
nothing but the pattern and that no earlier occurrence was passed over. -/

namespace PromptKernel.Text

/-- What follows the pattern when the text starts with it. -/
def dropPrefix? : List Char → List Char → Option (List Char)
  | [], text => some text
  | _ :: _, [] => none
  | p :: ps, c :: cs => if p = c then dropPrefix? ps cs else none

theorem dropPrefix?_eq_some_iff {pattern text rest : List Char} :
    dropPrefix? pattern text = some rest ↔ text = pattern ++ rest := by
  induction pattern generalizing text with
  | nil => simp [dropPrefix?, eq_comm]
  | cons p ps ih =>
    cases text with
    | nil => simp [dropPrefix?]
    | cons c cs =>
      by_cases same : p = c
      · simp [dropPrefix?, same, ih]
      · simp [dropPrefix?, same, Ne.symm same]

theorem length_of_dropPrefix? {pattern text rest : List Char}
    (found : dropPrefix? pattern text = some rest) : rest.length ≤ text.length := by
  simp [dropPrefix?_eq_some_iff.mp found]

/-- Splits the text around the first occurrence of the pattern. -/
def cut? (pattern : List Char) : List Char → Option (List Char × List Char)
  | [] => (dropPrefix? pattern []).map fun rest => ([], rest)
  | c :: cs =>
    match dropPrefix? pattern (c :: cs) with
    | some rest => some ([], rest)
    | none => (cut? pattern cs).map fun (before, rest) => (c :: before, rest)

theorem eq_append_of_cut? {pattern text before rest : List Char}
    (found : cut? pattern text = some (before, rest)) : text = before ++ pattern ++ rest := by
  induction text generalizing before with
  | nil =>
    simp only [cut?, Option.map_eq_some_iff, Prod.mk.injEq] at found
    obtain ⟨rest', start, rfl, rfl⟩ := found
    simpa using dropPrefix?_eq_some_iff.mp start
  | cons c cs ih =>
    simp only [cut?] at found
    split at found
    · next rest' start =>
      obtain ⟨rfl, rfl⟩ := by simpa using found
      simpa using dropPrefix?_eq_some_iff.mp start
    · obtain ⟨⟨before', rest'⟩, inner, same⟩ := Option.map_eq_some_iff.mp found
      obtain ⟨rfl, rfl⟩ := by simpa using same
      simpa using ih inner

theorem cut?_eq_none_iff {pattern text : List Char} :
    cut? pattern text = none ↔ ¬ pattern <:+: text := by
  induction text with
  | nil =>
    cases pattern <;> simp [cut?, dropPrefix?]
  | cons c cs ih =>
    simp only [cut?]
    split
    · next rest start =>
      simp only [reduceCtorEq, false_iff]
      exact fun absent => absent ⟨[], rest, by simpa using (dropPrefix?_eq_some_iff.mp start).symm⟩
    · next absent =>
      rw [Option.map_eq_none_iff, ih, List.infix_cons_iff, not_or]
      refine ⟨fun inner => ⟨fun ⟨rest, same⟩ => ?_, inner⟩, And.right⟩
      rw [dropPrefix?_eq_some_iff.mpr same.symm] at absent
      cases absent

end PromptKernel.Text
