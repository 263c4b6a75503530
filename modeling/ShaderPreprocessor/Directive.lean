/-
Directive lines. A directive is a number sign and a keyword, with blanks before and after the
sign; all other lines are ordinary text.

    line    ::= blank* '#' blank* body
    body    ::= 'ifdef' blank* name ... | 'ifndef' blank* name ... | 'else' ... | 'endif' ...
              | 'import' reference

What follows a name, an `else` or an `endif` is ignored, and no blank is needed after a keyword.

* `Directive.ofLine?`: the directive of a line, if it is one;
* `after?_eq_some_iff`: a keyword is matched where the text starts with it;
* `importRef?`: the reference of an import line.
-/
import ShaderPreprocessor.ImportRef
import ShaderPreprocessor.Text.Lines
import ShaderPreprocessor.Text.WordChar

namespace ShaderPreprocessor

open Text

/-- The directives of the preprocessor. -/
inductive Directive where
  /-- Opens a block that is kept if the name is defined. -/
  | ifdef (name : String)
  /-- Opens a block that is kept if the name is not defined. -/
  | ifndef (name : String)
  /-- Turns over whether the block is kept. -/
  | otherwise
  /-- Closes the block. -/
  | endif
  /-- Stands for the text of another shader. -/
  | splice (ref : ImportRef)
  deriving DecidableEq, Repr

namespace Directive

/-- What follows a keyword, in a text that starts with it. -/
def after? : List Char → List Char → Option (List Char)
  | [], text => some text
  | _ :: _, [] => none
  | k :: keyword, c :: text => if k = c then after? keyword text else none

/-- A keyword is matched exactly where the text is the keyword and a rest. -/
theorem after?_eq_some_iff {keyword text rest : List Char} :
    after? keyword text = some rest ↔ text = keyword ++ rest := by
  induction keyword generalizing text with
  | nil => simp [after?]
  | cons k keyword ih =>
    cases text with
    | nil => simp [after?]
    | cons c text =>
      by_cases h : k = c
      · simp [after?, h, ih]
      · simp [after?, h, Ne.symm h]

/-- What follows the number sign of a line, without the blanks around the sign. -/
def body? (line : Line) : Option (List Char) :=
  (after? ['#'] (trimStart line)).map trimStart

/-- The run of word characters that follows blanks, if it is not empty. -/
def name? (text : List Char) : Option String :=
  match (trimStart text).takeWhile isWord with
  | [] => none
  | c :: name => some (String.ofList (c :: name))

/-- The name after a keyword. -/
def condition? (keyword : String) (body : List Char) : Option String :=
  (after? keyword.toList body).bind name?

/-- The reference of an import line, if the body is one. -/
def reference? (body : List Char) : Option ImportRef :=
  (after? "import".toList body).bind ImportRef.ofTail?

/-- The directive that a body states. -/
def ofBody? (body : List Char) : Option Directive :=
  match condition? "ifdef" body with
  | some name => some (ifdef name)
  | none =>
    match condition? "ifndef" body with
    | some name => some (ifndef name)
    | none =>
      if (after? "else".toList body).isSome then some otherwise
      else if (after? "endif".toList body).isSome then some endif
      else (reference? body).map splice

/-- The directive that a line states; none for ordinary text. -/
def ofLine? (line : Line) : Option Directive := (body? line).bind ofBody?

end Directive

/-- The reference of a line, if it is an import line. -/
def importRef? (line : Line) : Option ImportRef :=
  (Directive.body? line).bind Directive.reference?

/-- The references of the import lines of a text, in order. Conditions are left out of account. -/
def importRefs (text : String) : List ImportRef := (lines text.toList).filterMap importRef?

end ShaderPreprocessor
