import PromptKernel.Text.Blank

/-! The left margin of a text that is written piece by piece. Included templates keep the
indentation of the place that they are included from. Lines inside of a piece get it as they are
written. The first line of a piece gets it only where it is due, which is after a line break that
was written in the same part of the template, and never if the piece starts with a line break. -/

namespace PromptKernel.Template

structure Margin where
  indent : List Char := []
  /-- Whether the last piece ended a line. -/
  lineEnded : Bool := true
  /-- Whether a piece was written in the current part. -/
  used : Bool := false
  /-- Whether the next piece gets the indentation in front of it. -/
  due : Bool := false

/-- Puts the indentation behind every line break but one at the end. -/
def indented (indent : List Char) : List Char → List Char
  | [] => []
  | ['\n'] => ['\n']
  | '\n' :: rest => '\n' :: indent ++ indented indent rest
  | c :: rest => c :: indented indent rest

theorem indented_nil (text : List Char) : indented [] text = text := by
  fun_induction indented [] text <;> simp_all

namespace Margin

/-- Writes a piece of text. An empty one changes nothing. -/
def write (margin : Margin) (text : List Char) : List Char × Margin :=
  match text with
  | [] => ([], margin)
  | c :: rest =>
    let start := if margin.due && !Text.isLineBreak c then margin.indent else []
    let ended := (c :: rest).getLast?.any Text.isLineBreak
    (start ++ indented margin.indent (c :: rest),
      { margin with lineEnded := ended, used := true, due := ended })

/-- Without indentation every text is written as it is. -/
theorem write_of_indent_nil {margin : Margin} (flush : margin.indent = []) (text : List Char) :
    (margin.write text).1 = text := by
  cases text with
  | nil => rfl
  | cons c rest => simp [write, flush, indented_nil]

/-- The margin inside of a part that may have a line for itself. -/
def enter (margin : Margin) (ownLine : Bool) : Margin :=
  { margin with used := false, due := margin.due || (ownLine && margin.lineEnded) }

/-- The margin inside of an included template that is indented further. -/
def enterIndented (margin : Margin) (indent : List Char) (ownLine : Bool) : Margin where
  indent := margin.indent ++ indent
  lineEnded := margin.lineEnded
  used := false
  due := ownLine && (margin.lineEnded || !indent.isEmpty)

/-- The margin after a part, from those before it and at its end. A part without text does not
take the place of the next piece. -/
def leave (before after : Margin) : Margin where
  indent := before.indent
  lineEnded := after.lineEnded
  used := after.used || before.used
  due := if after.used then after.lineEnded else before.due

end Margin

end PromptKernel.Template
