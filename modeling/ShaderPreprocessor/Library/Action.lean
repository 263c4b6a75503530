/-
Operations on a library, one at a time. Handles come from a supply that may serve several
libraries; only storing a shader and asking for a handle draw from it.

* `Library.Action`, `Reply`: what is asked, and what is answered;
* `Library.act`: one operation. An operation that fails leaves the library as it was;
* `Library.process`: a stored shader preprocessed, without any change.
-/
import ShaderPreprocessor.Event
import ShaderPreprocessor.Failure

namespace ShaderPreprocessor

/-- What operations answer. -/
inductive Reply where
  /-- Nothing but that it is done. -/
  | done
  /-- A handle. -/
  | handle (h : Handle)
  /-- A handle, if there is one. -/
  | foundHandle (h : Option Handle)
  /-- A shader, if there is one. -/
  | foundShader (shader : Option Shader)
  /-- Whether something is so. -/
  | truth (b : Bool)
  /-- A number. -/
  | count (n : Nat)
  /-- A processed shader. -/
  | processed (shader : Processed)
  deriving DecidableEq, Repr

/-- What an operation comes to: its events, and an answer or a failure. -/
abbrev Answering := Traced Event Failure Reply

namespace Library

/-- The operations on a library. -/
inductive Action where
  /-- Store a shader under a new handle. -/
  | add (shader : Shader)
  /-- Make a reference stand for a stored shader. -/
  | assign (ref : ImportRef) (h : Handle)
  /-- The shader of a handle. -/
  | get (h : Handle)
  /-- The handle that a reference stands for. -/
  | handleFor (ref : ImportRef)
  /-- Drop a shader and the references to it. -/
  | remove (h : Handle)
  /-- Whether a handle has a shader. -/
  | contains (h : Handle)
  /-- The number of shaders. -/
  | count
  /-- Drop everything. -/
  | clear
  /-- Issue a handle that stands for nothing. -/
  | issue
  /-- Preprocess a stored shader. -/
  | process (h : Handle) (defs : List String)
  deriving DecidableEq, Repr

/-- A stored shader preprocessed under a set of defined names. -/
def process (library : Library) (h : Handle) (defs : List String) :
    Traced Event Failure Processed :=
  match library.shaders.get? h with
  | none => .fail (.unregistered h)
  | some shader => ((library.preprocess defs shader).mapEvents .inlined).mapError .ofStop

/-- One operation on a library: the supply and the library after it, and what it answers. -/
def act (supply : Supply) (library : Library) : Action → Supply × Library × Answering
  | .add shader =>
    (supply.advance, library.add supply.handle shader, .pure (.handle supply.handle))
  | .assign ref h =>
    if library.shaders.contains h then (supply, library.assign ref h, .pure .done)
    else (supply, library, .fail (.unregistered h))
  | .get h => (supply, library, .pure (.foundShader (library.shaders.get? h)))
  | .handleFor ref => (supply, library, .pure (.foundHandle (library.imports.get? ref)))
  | .remove h =>
    if library.shaders.contains h then (supply, library.remove h, .pure .done)
    else (supply, library, .fail (.unregistered h))
  | .contains h => (supply, library, .pure (.truth (library.shaders.contains h)))
  | .count => (supply, library, .pure (.count library.shaders.size))
  | .clear => (supply, .empty, .pure .done)
  | .issue => (supply.advance, library, .pure (.handle supply.handle))
  | .process h defs => (supply, library, (library.process h defs).map .processed)

end Library

end ShaderPreprocessor
