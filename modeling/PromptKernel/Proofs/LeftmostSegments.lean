import PromptKernel.Proofs.TranscriptSegments

/-! The segments of a text, place by place. From where a reader stands, the next segment is the leftmost one
whose opening tag is closed anywhere behind it, up to the nearest closing tag. This leaves no choice. An
opening tag that is never closed is part of the text between segments, and no closed one is missed. -/

namespace PromptKernel

namespace Text

theorem length_le_of_cut? {pattern text before rest other more : List Char}
    (found : cut? pattern text = some (before, rest)) (same : text = other ++ (pattern ++ more)) :
    before.length ≤ other.length := by
  induction text generalizing before other with
  | nil =>
    obtain ⟨after, -, equal⟩ := Option.map_eq_some_iff.mp found
    cases equal
    exact Nat.zero_le _
  | cons c text ih =>
    rw [cut?] at found
    split at found
    next =>
      cases found
      exact Nat.zero_le _
    next missing =>
      obtain ⟨⟨before', rest'⟩, cut, equal⟩ := Option.map_eq_some_iff.mp found
      cases equal
      cases other with
      | nil =>
        have begun : dropPrefix? pattern (c :: text) = some more := dropPrefix?_eq_some_iff.mpr same
        rw [missing] at begun
        cases begun
      | cons d other =>
        obtain ⟨-, later⟩ := List.cons.inj same
        exact Nat.succ_le_succ (ih cut later)

/-- A cut is made at the first place of the pattern. -/
theorem cut?_eq_some_iff {pattern text before rest : List Char} :
    cut? pattern text = some (before, rest) ↔ text = before ++ (pattern ++ rest) ∧
      ∀ other more, text = other ++ (pattern ++ more) → before.length ≤ other.length := by
  constructor
  · intro found
    exact ⟨by simpa using eq_append_of_cut? found, fun other more => length_le_of_cut? found⟩
  · rintro ⟨whole, least⟩
    cases found : cut? pattern text with
    | none => exact absurd ⟨before, rest, by simp [whole]⟩ (cut?_eq_none_iff.mp found)
    | some result =>
      obtain ⟨before', rest'⟩ := result
      have split := eq_append_of_cut? found
      rw [List.append_assoc] at split
      have equal : before'.length = before.length :=
        Nat.le_antisymm (length_le_of_cut? found whole) (least before' rest' split)
      obtain ⟨rfl, behind⟩ := List.append_inj (split.symm.trans whole) equal
      rw [List.append_cancel_left behind]

end Text

namespace Transcript

/-- The text starts with an opening tag of the role, which is closed somewhere behind it. -/
def Opens (role : Role) (text : List Char) : Prop :=
  ∃ body, text = role.openingTag ++ body ∧ role.closingTag <:+: body

/-- The turn starts the text, and its content goes up to the nearest closing tag of its role. -/
structure Leads (turn : Turn) (rest text : List Char) : Prop where
  written : text = turn.tagged.toList ++ rest
  nearest : ∀ inside behind, turn.content.toList ++ (turn.role.closingTag ++ rest) =
    inside ++ (turn.role.closingTag ++ behind) → turn.content.toList.length ≤ inside.length

theorem toList_tagged_append (turn : Turn) (rest : List Char) : turn.tagged.toList ++ rest =
    turn.role.openingTag ++ (turn.content.toList ++ (turn.role.closingTag ++ rest)) := by
  simp [Turn.tagged]

theorem Leads.opens {turn : Turn} {rest text : List Char} (leads : Leads turn rest text) : Opens turn.role text := by
  refine ⟨turn.content.toList ++ (turn.role.closingTag ++ rest), ?_, ⟨turn.content.toList, rest, by simp⟩⟩
  rw [leads.written, toList_tagged_append]

theorem segment?_eq_some_iff {text rest : List Char} {turn : Turn} :
    segment? text = some (turn, rest) ↔ Leads turn rest text := by
  constructor
  · intro found
    obtain ⟨⟨role, body⟩, opened, closed⟩ := Option.bind_eq_some_iff.mp found
    obtain ⟨⟨content, rest'⟩, cut, same⟩ := Option.map_eq_some_iff.mp closed
    cases same
    obtain ⟨whole, first⟩ := Text.cut?_eq_some_iff.mp cut
    refine ⟨?_, ?_⟩
    · rw [openingTag?_eq_some_iff.mp opened, whole, toList_tagged_append, String.toList_ofList]
    · intro inside behind same
      rw [String.toList_ofList] at same ⊢
      exact first inside behind (whole.trans same)
  · intro leads
    have opened : openingTag? text =
        some (turn.role, turn.content.toList ++ (turn.role.closingTag ++ rest)) := by
      rw [openingTag?_eq_some_iff, leads.written, toList_tagged_append]
    have cut := Text.cut?_eq_some_iff.mpr ⟨rfl, leads.nearest⟩
    simp [segment?, opened, cut]

theorem segment?_eq_none_iff {text : List Char} : segment? text = none ↔ ∀ role, ¬Opens role text := by
  constructor
  · rintro missing role ⟨body, whole, closed⟩
    have opened := openingTag?_eq_some_iff.mpr whole
    rw [segment?, opened, Option.bind_some, Option.map_eq_none_iff] at missing
    exact Text.cut?_eq_none_iff.mp missing closed
  · intro never
    cases found : segment? text with
    | none => rfl
    | some result => exact absurd (segment?_eq_some_iff.mp found).opens (never _)

theorem extractFrom_of_leads {turn : Turn} {rest text : List Char} (leads : Leads turn rest text) :
    extractFrom text = turn :: extractFrom rest := by
  have found := segment?_eq_some_iff.mpr leads
  cases text with
  | nil => cases found
  | cons c text =>
    rw [extractFrom]
    split
    next found' =>
      rw [found] at found'
      cases found'
      rfl
    next missing =>
      rw [found] at missing
      cases missing

theorem extractFrom_cons {c : Char} {text : List Char} (never : ∀ role, ¬Opens role (c :: text)) :
    extractFrom (c :: text) = extractFrom text := by
  have missing := segment?_eq_none_iff.mpr never
  rw [extractFrom]
  split
  next found =>
    rw [missing] at found
    cases found
  next => rfl

/-- Where no tag can begin there is nothing to read. -/
theorem extractFrom_append_of_not_mem {text : List Char} (plain : '<' ∉ text) (rest : List Char) :
    extractFrom (text ++ rest) = extractFrom rest := by
  induction text with
  | nil => rfl
  | cons c text ih =>
    rw [List.mem_cons, not_or] at plain
    rw [List.cons_append, extractFrom_cons, ih plain.2]
    rintro role ⟨body, whole, -⟩
    rw [Role.openingTag_eq] at whole
    exact plain.1 (List.cons.inj whole).1.symm

theorem not_opens_of_unclosed {role : Role} {rest : List Char} (unclosed : ¬role.closingTag <:+: rest) (other : Role) :
    ¬Opens other (role.openingTag ++ rest) := by
  rintro ⟨body, whole, closed⟩
  have opened : openingTag? (role.openingTag ++ rest) = some (other, body) := openingTag?_eq_some_iff.mpr whole
  have own : openingTag? (role.openingTag ++ rest) = some (role, rest) := openingTag?_eq_some_iff.mpr rfl
  rw [own] at opened
  cases opened
  exact unclosed closed

/-- A tag that is never closed is passed over, and hides nothing behind it. -/
theorem extractFrom_openingTag {role : Role} {rest : List Char} (unclosed : ¬role.closingTag <:+: rest) :
    extractFrom (role.openingTag ++ rest) = extractFrom rest := by
  have never := not_opens_of_unclosed unclosed
  rw [Role.openingTag_eq, List.cons_append] at never ⊢
  rw [extractFrom_cons never, extractFrom_append_of_not_mem role.angle_notMem_openingRest]

/-- The segments of a text, each with the text in front of it, and what is left behind the last one. -/
inductive Taken : List Char → List (List Char × Turn) → List Char → Prop
  | stop (never : ∀ before after, text = before ++ after → ∀ role, ¬Opens role after) : Taken text [] text
  | take (whole : text = gap ++ place) (leads : Leads turn rest place)
      (leftmost : ∀ before after, text = before ++ after → ∀ role, Opens role after → gap.length ≤ before.length)
      (later : Taken rest segments left) : Taken text ((gap, turn) :: segments) left

/-- Segments as they stand in a text. -/
def spelled (segments : List (List Char × Turn)) : List Char :=
  segments.flatMap fun (gap, turn) => gap ++ turn.tagged.toList

namespace Taken
variable {text left : List Char} {segments : List (List Char × Turn)}

theorem cons {c : Char} (never : ∀ role, ¬Opens role (c :: text)) (taken : Taken text segments left) :
    ∃ others more, Taken (c :: text) others more ∧ others.map Prod.snd = segments.map Prod.snd := by
  cases taken with
  | stop none =>
    refine ⟨[], c :: text, .stop ?_, rfl⟩
    intro before after split role opens
    rcases List.cons_eq_append_iff.mp split with ⟨-, rfl⟩ | ⟨before', -, inner⟩
    · exact never role opens
    · exact none before' after inner role opens
  | @take _ gap place turn rest segments _ whole leads leftmost later =>
    refine ⟨(c :: gap, turn) :: segments, left, .take (by rw [whole]; rfl) leads ?_ later, rfl⟩
    intro before after split role opens
    rcases List.cons_eq_append_iff.mp split with ⟨-, rfl⟩ | ⟨before', rfl, inner⟩
    · exact absurd opens (never role)
    · exact Nat.succ_le_succ (leftmost before' after inner role opens)

theorem exists_of_text (text : List Char) :
    ∃ segments left, Taken text segments left ∧ segments.map Prod.snd = extractFrom text := by
  induction text using extractFrom.induct with
  | case1 =>
    refine ⟨[], [], .stop ?_, by rw [extractFrom]; rfl⟩
    rintro before after split role ⟨body, rfl, -⟩
    obtain ⟨-, empty⟩ := List.append_eq_nil_iff.mp split.symm
    cases empty
  | case2 c text turn rest found ih =>
    obtain ⟨segments, left, later, same⟩ := ih
    have leads := segment?_eq_some_iff.mp found
    refine ⟨([], turn) :: segments, left, .take rfl leads (fun _ _ _ _ _ => Nat.zero_le _) later, ?_⟩
    rw [extractFrom_of_leads leads, ← same]
    rfl
  | case3 c text missing ih =>
    obtain ⟨segments, left, taken, same⟩ := ih
    have never := segment?_eq_none_iff.mp missing
    obtain ⟨others, more, longer, turns⟩ := taken.cons never
    exact ⟨others, more, longer, by rw [turns, same, extractFrom_cons never]⟩

theorem unique (taken : Taken text segments left) {others : List (List Char × Turn)} {more : List Char}
    (also : Taken text others more) : others = segments ∧ more = left := by
  induction taken generalizing others more with
  | @stop text never =>
    cases also with
    | stop => exact ⟨rfl, rfl⟩
    | take whole leads _ _ => exact absurd leads.opens (never _ _ whole _)
  | @take text gap place turn rest segments left whole leads leftmost later ih =>
    cases also with
    | stop never => exact absurd leads.opens (never _ _ whole _)
    | @take _ gap' place' turn' rest' segments' _ whole' leads' leftmost' later' =>
      have level : gap'.length = gap.length :=
        Nat.le_antisymm (leftmost' _ _ whole _ leads.opens) (leftmost _ _ whole' _ leads'.opens)
      obtain ⟨rfl, rfl⟩ := List.append_inj (whole'.symm.trans whole) level
      have found := segment?_eq_some_iff.mpr leads
      rw [segment?_eq_some_iff.mpr leads'] at found
      cases found
      obtain ⟨rfl, rfl⟩ := ih later'
      exact ⟨rfl, rfl⟩

theorem written (taken : Taken text segments left) : text = spelled segments ++ left := by
  induction taken with
  | stop => rfl
  | take whole leads _ _ ih => simpa [whole, leads.written, spelled] using ih

/-- Whatever is opened and closed begins inside of a segment. -/
theorem covers (taken : Taken text segments left) {before after : List Char} (split : text = before ++ after)
    {role : Role} (opens : Opens role after) : ∃ earlier gap turn behind,
      segments = earlier ++ (gap, turn) :: behind ∧ (spelled earlier ++ gap).length ≤ before.length ∧
        before.length < (spelled earlier ++ (gap ++ turn.tagged.toList)).length := by
  induction taken generalizing before with
  | stop never => exact absurd opens (never before after split role)
  | @take text gap place turn rest segments left whole leads leftmost later ih =>
    have behind_gap := leftmost before after split role opens
    by_cases inside : before.length < (gap ++ turn.tagged.toList).length
    · exact ⟨[], gap, turn, segments, rfl, by simpa [spelled] using behind_gap, by simpa [spelled] using inside⟩
    · have same : (gap ++ turn.tagged.toList) ++ rest = before ++ after := by
        rw [← split, whole, leads.written, List.append_assoc]
      obtain ⟨before', rfl, rest_split⟩ : ∃ before', before = (gap ++ turn.tagged.toList) ++ before' ∧
          rest = before' ++ after := by
        rcases List.append_eq_append_iff.mp same with ⟨more, longer, rest_split⟩ | ⟨more, longer, after_split⟩
        · exact ⟨more, longer, rest_split⟩
        · rw [longer, List.length_append] at inside
          obtain rfl : more = [] := List.length_eq_zero_iff.mp (by omega)
          exact ⟨[], by simpa using longer.symm, by simpa using after_split.symm⟩
      obtain ⟨earlier, gap', turn', behind, rfl, low, high⟩ := ih rest_split
      refine ⟨(gap, turn) :: earlier, gap', turn', behind, rfl, ?_, ?_⟩
      all_goals
        simp only [spelled, List.flatMap_cons, List.length_append] at low high ⊢
        omega

end Taken

end Transcript

end PromptKernel
