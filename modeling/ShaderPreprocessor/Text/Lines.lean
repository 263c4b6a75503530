/-
Lines of a text. A line feed ends a line, a carriage return before it belongs to the line end,
and a last line needs no end.

* `lines`: the lines of a text, without their ends;
* `lines_append_newline`: a line with its end in front of a text is one line more;
* `unifyNewlines`: every line end written as one line feed.
-/
namespace ShaderPreprocessor.Text

/-- A line of text, as its characters. -/
abbrev Line := List Char

/-- One character in front of a text that is cut into lines: a line feed ends an empty line, and
any other character joins the first line. -/
def addFront (c : Char) (lines : List Line) : List Line :=
  if c = '\n' then [] :: lines
  else match lines with
    | [] => [[c]]
    | line :: lines => (c :: line) :: lines

/-- The pieces of a text between its line feeds, without an empty piece at the end. -/
def pieces (text : List Char) : List Line := text.foldr addFront []

/-- A line without one carriage return at its end. -/
def dropReturn : Line → Line
  | [] => []
  | [c] => if c = '\r' then [] else [c]
  | c :: d :: line => c :: dropReturn (d :: line)

/-- The lines of a text. -/
def lines (text : List Char) : List Line := (pieces text).map dropReturn

@[simp] theorem pieces_nil : pieces [] = [] := rfl

/-- A line feed ends an empty piece. -/
@[simp] theorem pieces_newline (text : List Char) : pieces ('\n' :: text) = [] :: pieces text := by
  simp [pieces, addFront]

/-- A piece without a line feed is ended by the line feed that follows it. -/
theorem pieces_append_newline {line : Line} (h : '\n' ∉ line) (text : List Char) :
    pieces (line ++ '\n' :: text) = line :: pieces text := by
  induction line with
  | nil => simp
  | cons c line ih =>
    simp only [List.mem_cons, not_or] at h
    have hrest : (line ++ '\n' :: text).foldr addFront [] = line :: pieces text := ih h.2
    simp [pieces, addFront, Ne.symm h.1, hrest]

@[simp] theorem lines_nil : lines [] = [] := rfl

/-- A line with its line feed, in front of a text, is one line more. -/
theorem lines_append_newline {line : Line} (h : '\n' ∉ line) (text : List Char) :
    lines (line ++ '\n' :: text) = dropReturn line :: lines text := by
  simp [lines, pieces_append_newline h]

/-- A text with every line end, be it a line feed, a carriage return or the two in a row, written
as one line feed. -/
def unifyNewlines : List Char → List Char
  | [] => []
  | '\r' :: '\n' :: text => '\n' :: unifyNewlines text
  | c :: text => (if c = '\r' then '\n' else c) :: unifyNewlines text

end ShaderPreprocessor.Text
