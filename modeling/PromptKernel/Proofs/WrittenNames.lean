import PromptKernel.Template.Tag

/-! Names as templates write them. A name is read as a whole, and one with an underscore in it has no
meaning of its own in a path, so a tag or a parenthesis that starts with it stands for a call by this
name. -/

namespace PromptKernel.Template

def IsIdentifier (name : List Char) : Prop := name ≠ [] ∧ ∀ c ∈ name, isSymbol c = true

/-- What follows a name without being part of it or of a longer path. -/
def EndsName (rest : List Char) : Prop := ∀ c ∈ rest.head?, isSymbol c = false ∧ isSeparator c = false

variable {name rest : List Char}

theorem identifier?_append (legal : IsIdentifier name) (ends : EndsName rest) :
    identifier? (name ++ rest) = some (String.ofList name, rest) := by
  have beyond : rest.takeWhile isSymbol = [] ∧ rest.dropWhile isSymbol = rest := by
    cases rest with
    | nil => exact ⟨rfl, rfl⟩
    | cons c rest => simp [(ends c rfl).1]
  unfold identifier?
  rw [List.takeWhile_append_of_pos legal.2, List.dropWhile_append_of_pos legal.2, beyond.1, beyond.2, List.append_nil]
  simp [legal.1]

theorem IsIdentifier.exists_head (legal : IsIdentifier name) (rest : List Char) :
    ∃ c text, name ++ rest = c :: text ∧ isSymbol c = true := by
  obtain ⟨c, more, rfl⟩ := List.exists_cons_of_ne_nil legal.1
  exact ⟨c, more ++ rest, rfl, legal.2 c List.mem_cons_self⟩

theorem ne_of_isSymbol {c mark : Char} (symbol : isSymbol c = true) (other : isSymbol mark = false) : c ≠ mark := by
  rintro rfl
  exact absurd symbol (by simp [other])

theorem skipGap_of_isSymbol {c : Char} (symbol : isSymbol c = true) (text : List Char) :
    skipGap (c :: text) = c :: text := by
  have apart : isGap c = false := by
    simp [isGap, ne_of_isSymbol symbol (show isSymbol ' ' = false by decide),
      ne_of_isSymbol symbol (show isSymbol '\t' = false by decide),
      ne_of_isSymbol symbol (show isSymbol '\n' = false by decide),
      ne_of_isSymbol symbol (show isSymbol '\r' = false by decide)]
  simp [skipGap, apart]

theorem isSeparator_of_isSymbol {c : Char} (symbol : isSymbol c = true) : isSeparator c = false := by
  simp [isSeparator, ne_of_isSymbol symbol (show isSymbol '/' = false by decide),
    ne_of_isSymbol symbol (show isSymbol '.' = false by decide)]

/-- The word for the current context does not end inside of a name with a mark in it. -/
theorem skipCurrent_append (legal : IsIdentifier name) (compound : '_' ∈ name) (rest : List Char) :
    skipCurrent (name ++ rest) = name ++ rest := by
  obtain ⟨first, more, rfl⟩ := List.exists_cons_of_ne_nil legal.1
  have symbol : isSymbol first = true := legal.2 first List.mem_cons_self
  unfold skipCurrent
  split
  next text same =>
    obtain ⟨rfl, -⟩ := List.cons.inj same
    exact absurd symbol (by decide)
  next c text same =>
    have inside : c ∈ first :: more := by
      have reached : first :: more <+: ['t', 'h', 'i', 's'] ++ c :: text := ⟨rest, same⟩
      rcases List.prefix_or_prefix_of_prefix reached (List.prefix_append _ _) with short | ⟨tail, long⟩
      · exact absurd (short.subset compound) (by decide)
      · cases tail with
        | nil => rw [← long] at compound; exact absurd compound (by decide)
        | cons d tail =>
          rw [← long, List.append_assoc] at same
          obtain ⟨rfl, -⟩ := List.cons.inj (List.append_cancel_left same)
          exact long ▸ List.mem_append_right _ List.mem_cons_self
    rw [if_neg (by simp [isSeparator_of_isSymbol (legal.2 c inside)])]
  next => rfl

theorem pathRoot_of_isSymbol {c : Char} (symbol : isSymbol c = true) (text : List Char) :
    pathRoot (c :: text) = ([], c :: text) := by
  have apart : c ≠ '@' := ne_of_isSymbol symbol (by decide)
  have unread : expect? "@root" (c :: text) = none := by simp [expect?, List.isPrefixOf, apart.symm]
  unfold pathRoot
  rw [unread]

theorem pathUps_of_isSymbol {c : Char} (symbol : isSymbol c = true) (text : List Char) :
    pathUps (c :: text) = ([], c :: text) := by
  have apart : c ≠ '.' := ne_of_isSymbol symbol (by decide)
  unfold pathUps
  split
  next same => exact absurd (List.cons.inj same).1 apart
  next => rfl

theorem pathItem?_append (legal : IsIdentifier name) (compound : '_' ∈ name) (ends : EndsName rest) :
    pathItem? (name ++ rest) = some ([.key (String.ofList name)], rest) := by
  have further : String.ofList name ≠ "this" := by
    intro same
    have word : name = "this".toList := by simpa using congrArg String.toList same
    rw [word] at compound
    exact absurd compound (by decide)
  have item := identifier?_append legal ends
  obtain ⟨c, text, same, symbol⟩ := legal.exists_head rest
  have apart : c ≠ '[' := ne_of_isSymbol symbol (by decide)
  rw [same] at item ⊢
  unfold pathItem?
  split
  next inside => exact absurd (List.cons.inj inside).1 apart
  next => simp only [item, Option.map_some, if_neg further]

theorem pathItems_of_endsName (ends : EndsName rest) (fuel : Nat) : pathItems fuel rest = ([], rest) := by
  cases fuel with
  | zero => rfl
  | succ fuel =>
    cases rest with
    | nil => rfl
    | cons c rest => simp [pathItems, (ends c rfl).2]

theorem path?_append (legal : IsIdentifier name) (compound : '_' ∈ name) (ends : EndsName rest) :
    path? (name ++ rest) = some (.steps (String.ofList name) [.key (String.ofList name)], rest) := by
  have written : (name ++ rest).take ((name ++ rest).length - rest.length) = name := by simp
  have current := skipCurrent_append legal compound rest
  have item := pathItem?_append legal compound ends
  obtain ⟨c, text, same, symbol⟩ := legal.exists_head rest
  have apart : c ≠ '@' := ne_of_isSymbol symbol (by decide)
  rw [same] at written current item ⊢
  rw [List.length_cons] at written
  simp [path?, current, pathRoot_of_isSymbol symbol, apart, pathUps_of_isSymbol symbol, item,
    pathItems_of_endsName ends, written]

theorem call?_of_isSymbol {c : Char} (symbol : isSymbol c = true) (fuel : Nat) (text : List Char) :
    call? fuel (c :: text) = none := by
  cases fuel with
  | zero => rfl
  | succ fuel =>
    unfold call?
    split
    next inside => exact absurd (List.cons.inj inside).1 (ne_of_isSymbol symbol (by decide))
    next => rfl

theorem head?_append (legal : IsIdentifier name) (compound : '_' ∈ name) (ends : EndsName rest) :
    head? (name ++ rest) =
      some (⟨.path (.steps (String.ofList name) [.key (String.ofList name)]), [], []⟩, rest) := by
  have path := path?_append legal compound ends
  obtain ⟨c, text, same, symbol⟩ := legal.exists_head rest
  rw [same] at path ⊢
  unfold head?
  rw [call?_of_isSymbol symbol, path]
  rfl

theorem expression?_append (legal : IsIdentifier name) (compound : '_' ∈ name) (ends : EndsName rest) :
    ∃ e after, expression? (name ++ rest) = some (e, after) ∧ e.writtenName? = some (String.ofList name) := by
  have item := identifier?_append legal ends
  have alone := head?_append legal compound ends
  obtain ⟨c, text, same, symbol⟩ := legal.exists_head rest
  rw [same] at item alone ⊢
  unfold expression?
  rw [skipGap_of_isSymbol symbol]
  simp only [item, alone]
  rcases arguments? (2 * rest.length + 2) [] [] rest with _ | ⟨params, hash, after⟩
  · exact ⟨_, _, rfl, rfl⟩
  · by_cases bare : (params.isEmpty && List.isEmpty hash) = true
    · simp only [bare, if_true]
      exact ⟨_, _, rfl, rfl⟩
    · simp only [bare]
      exact ⟨_, _, rfl, rfl⟩

theorem writtenName?_of_line? (legal : IsIdentifier name) (ends : EndsName rest) {e : Expression}
    {names : List String} {after : List Char} (read : line? (name ++ rest) = some (e, names, after)) :
    e.writtenName? = some (String.ofList name) := by
  have item := identifier?_append legal ends
  obtain ⟨c, text, same, symbol⟩ := legal.exists_head rest
  rw [same] at item read
  unfold line? at read
  rw [skipGap_of_isSymbol symbol] at read
  obtain ⟨⟨word, more⟩, found, read⟩ := Option.bind_eq_some_iff.mp read
  cases item.symm.trans found
  obtain ⟨⟨params, hash, left⟩, -, read⟩ := Option.bind_eq_some_iff.mp read
  dsimp only at read
  split at read <;> cases read <;> rfl

theorem name_of_call? (legal : IsIdentifier name) (compound : '_' ∈ name) (ends : EndsName rest) {fuel : Nat}
    {argument : Argument} {after : List Char} (read : call? fuel ('(' :: (name ++ rest)) = some (argument, after)) :
    ∃ params hash, argument = .call (String.ofList name) params hash := by
  have item := identifier?_append legal ends
  have path := path?_append legal compound ends
  obtain ⟨c, text, same, symbol⟩ := legal.exists_head rest
  rw [same] at item path read
  cases fuel with
  | zero => cases read
  | succ fuel =>
    unfold call? at read
    simp only [skipGap_of_isSymbol symbol, item, path] at read
    split at read
    next result called =>
      cases read
      split at called
      next params hash more _ =>
        split at called
        · cases called
        · split at called
          next => cases called; exact ⟨params, hash, rfl⟩
          next => cases called
      next => cases called
    next =>
      split at read
      next => cases read; exact ⟨[], [], rfl⟩
      next => cases read

/-- However a call is written, it is read as one by the name. -/
structure ReadsAsCall (name : List Char) : Prop where
  output : ∀ rest, EndsName rest →
    ∃ e after, expression? (name ++ rest) = some (e, after) ∧ e.writtenName? = some (String.ofList name)
  block : ∀ rest e names after, EndsName rest → line? (name ++ rest) = some (e, names, after) →
    e.writtenName? = some (String.ofList name)
  argument : ∀ rest fuel argument after, EndsName rest →
    call? fuel ('(' :: (name ++ rest)) = some (argument, after) →
    ∃ params hash, argument = .call (String.ofList name) params hash

theorem readsAsCall (legal : IsIdentifier name) (compound : '_' ∈ name) : ReadsAsCall name where
  output _ ends := expression?_append legal compound ends
  block _ _ _ _ ends read := writtenName?_of_line? legal ends read
  argument _ _ _ _ ends read := name_of_call? legal compound ends read

end PromptKernel.Template
