/-
Preprocessing of one shader. Its lines are taken in order: conditional directives open, turn over
and close scopes, an import line stands for the whole text of the shader it names, whatever the
scope it is in, and any other line stays if its scope is active.

* `Scope`: the open blocks at a line;
* `expandLines`: the lines of one text, given what import lines stand for;
* `expand`: a shader and, by way of its import lines, others, down to a given nesting depth;
* `Library.preprocess`: the depth that leaves out nothing. Nesting deeper than the number of
  stored shaders repeats one of them and has no end.

The trace of an expansion tells which imports were spliced in, in order.
-/
import ShaderPreprocessor.Library.Basic
import ShaderPreprocessor.ProcessError
import ShaderPreprocessor.Traced

namespace ShaderPreprocessor

open Text

/-! ### Scopes -/

/-- The scope of a line: whether lines are kept in it, and in the scopes around it. -/
structure Scope where
  /-- Whether lines are kept. -/
  active : Bool
  /-- Whether lines are kept in the scopes around this one, the nearest first. -/
  outer : List Bool
  deriving DecidableEq, Repr

namespace Scope

/-- The scope of a text outside all blocks. -/
def root : Scope := ⟨true, []⟩

/-- The scope of a block that opens here under a condition. -/
def enter (scope : Scope) (condition : Bool) : Scope :=
  ⟨scope.active && condition, scope.active :: scope.outer⟩

/-- The scope turned over. What is around a text as a whole counts as active. -/
def turn (scope : Scope) : Scope :=
  ⟨scope.outer.headD true && !scope.active, scope.outer⟩

/-- The scope around this one, if there is one. -/
def leave? (scope : Scope) : Option Scope :=
  match scope.outer with
  | [] => none
  | active :: outer => some ⟨active, outer⟩

/-- A block that opens and closes again leaves the scope as it was. -/
@[simp] theorem leave?_enter (scope : Scope) (condition : Bool) :
    (scope.enter condition).leave? = some scope := rfl

/-- To turn a scope over does not change what is around it. -/
@[simp] theorem outer_turn (scope : Scope) : scope.turn.outer = scope.outer := rfl

end Scope

/-! ### The lines of one text -/

/-- An import that was spliced in. -/
structure Inlining where
  /-- The reference. -/
  ref : ImportRef
  /-- The handle it stands for. -/
  handle : Handle
  deriving DecidableEq, Repr

/-- What a run of preprocessing comes to. -/
abbrev Expanding (α : Type) := Traced Inlining Stop α

/-- The text that lines stand for, from a scope on to the end of the text. -/
def expandLines (splice : ImportRef → Expanding (List Char)) (defs : List String) :
    Scope → List Line → Expanding (List Char)
  | scope, [] =>
    if scope.outer = [] then .pure [] else .fail (.fault .notEnoughEndifs)
  | scope, line :: lines =>
    match Directive.ofLine? line with
    | some (.ifdef name) => expandLines splice defs (scope.enter (defs.contains name)) lines
    | some (.ifndef name) => expandLines splice defs (scope.enter (!defs.contains name)) lines
    | some .otherwise => expandLines splice defs scope.turn lines
    | some .endif =>
      match scope.leave? with
      | some scope => expandLines splice defs scope lines
      | none => .fail (.fault .tooManyEndifs)
    | some (.splice ref) =>
      (splice ref).bind fun text => (expandLines splice defs scope lines).map (text ++ ·)
    | none =>
      (expandLines splice defs scope lines).map fun text =>
        if scope.active then line ++ '\n' :: text else text

/-! ### Shaders -/

/-- The text of a processed shader that is spliced into text of a dialect. -/
def spliceable (dialect : Dialect) (ref : ImportRef) : Processed → Expanding (List Char)
  | .text other content =>
    if dialect.sameFamily other then .pure content.toList else .fail (.fault (.mismatched ref))
  | .spirv _ => .fail (.fault (.mismatched ref))

/-- The text that a reference stands for in text of a dialect, given what becomes of a shader. -/
def spliceRef (library : Library) (dialect : Dialect) (process : Shader → Expanding Processed)
    (ref : ImportRef) : Expanding (List Char) :=
  match library.resolve? ref with
  | none => .fail (.fault (.unresolved ref))
  | some (h, shader) =>
    (Traced.record ⟨ref, h⟩).bind fun _ => (process shader).bind (spliceable dialect ref)

/-- A shader preprocessed under a set of defined names, with imports nested to a depth at which
the shader itself counts as one. -/
def expand (library : Library) (defs : List String) : Nat → Shader → Expanding Processed
  | 0, _ => .fail .endless
  | depth + 1, shader =>
    match shader.source with
    | .spirv data => if defs = [] then .pure (.spirv data) else .fail (.fault .unsupportedDefs)
    | .text dialect content =>
      (expandLines (spliceRef library dialect (expand library defs depth)) defs .root
        (lines content.toList)).map fun text => .text dialect (String.ofList text)

namespace Library

/-- The nesting depth that no finite expansion goes beyond: every stored shader once, and the one
that is preprocessed. -/
def depthBound (library : Library) : Nat := library.shaders.size + 1

/-- A shader preprocessed under a set of defined names. -/
def preprocess (library : Library) (defs : List String) (shader : Shader) : Expanding Processed :=
  expand library defs library.depthBound shader

end Library

end ShaderPreprocessor
