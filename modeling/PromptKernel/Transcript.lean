import PromptKernel.Text.Search

/-! Chat transcripts. A conversation is written as a run of role tags, each turn between an
opening tag such as <user~> and the closing tag of the same role, and is read back from any text
that holds such segments. -/

namespace PromptKernel

inductive Role
  | system
  | user
  | assistant
deriving DecidableEq, Repr

namespace Role

def name : Role → String
  | system => "system"
  | user => "user"
  | assistant => "assistant"

def all : List Role := [user, system, assistant]

def ofName? (text : String) : Option Role := all.find? fun role => role.name == text

def unknownMessage (text : String) : String := "unknown role `" ++ text ++ "`"

def openingTag (role : Role) : List Char := '<' :: role.name.toList ++ ['~', '>']

def closingTag (role : Role) : List Char := '<' :: '/' :: role.name.toList ++ ['~', '>']

end Role

structure Turn where
  role : Role
  content : String
deriving DecidableEq, Repr

def Turn.tagged (turn : Turn) : String :=
  String.ofList (turn.role.openingTag ++ turn.content.toList ++ turn.role.closingTag)

namespace Transcript

def render (turns : List Turn) : String := String.join (turns.map Turn.tagged)

/-- The role whose opening tag starts the text, with what follows the tag. -/
def openingTag? (text : List Char) : Option (Role × List Char) :=
  Role.all.findSome? fun role =>
    (Text.dropPrefix? role.openingTag text).map fun rest => (role, rest)

/-- The segment that starts the text: its turn, and what follows its closing tag. The body runs to
the nearest closing tag of the same role, so it may hold tags of other roles. -/
def segment? (text : List Char) : Option (Turn × List Char) :=
  (openingTag? text).bind fun (role, body) =>
    (Text.cut? role.closingTag body).map fun (content, rest) =>
      (⟨role, String.ofList content⟩, rest)

theorem length_of_openingTag? {text rest : List Char} {role : Role}
    (found : openingTag? text = some (role, rest)) : rest.length ≤ text.length := by
  obtain ⟨role', -, started⟩ := List.exists_of_findSome?_eq_some found
  obtain ⟨rest', start, same⟩ := Option.map_eq_some_iff.mp started
  obtain ⟨rfl, rfl⟩ := by simpa using same
  exact Text.length_of_dropPrefix? start

theorem length_of_segment? {text rest : List Char} {turn : Turn}
    (found : segment? text = some (turn, rest)) : rest.length < text.length := by
  obtain ⟨⟨role, body⟩, opened, closed⟩ := Option.bind_eq_some_iff.mp found
  obtain ⟨⟨content, rest'⟩, cut, same⟩ := Option.map_eq_some_iff.mp closed
  obtain ⟨rfl, rfl⟩ := by simpa using same
  have shorter := length_of_openingTag? opened
  have whole := congrArg List.length (Text.eq_append_of_cut? cut)
  simp [Role.closingTag] at whole
  omega

/-- The turns of the segments in the characters, in source order. Text outside of segments is
dropped, and an opening tag without a later closing tag of its role is stepped over. -/
def extractFrom : List Char → List Turn
  | [] => []
  | c :: cs =>
    match _found : segment? (c :: cs) with
    | some (turn, rest) => turn :: extractFrom rest
    | none => extractFrom cs
termination_by text => text.length
decreasing_by
  · exact length_of_segment? ‹_›
  · simp

def extract (text : String) : List Turn := extractFrom text.toList

/-- The text of a completion request around a rendered template. -/
def request (rendered : String) : String := "<request>" ++ rendered ++ "</request>"

end Transcript

end PromptKernel
