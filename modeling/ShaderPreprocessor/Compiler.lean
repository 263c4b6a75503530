/-
Programs made from processed shaders by a graphics device. The compiler hands the device GLSL
text of the right stages and nothing else, keeps the programs that it makes, and releases them.

* `Device`: which calls a device refuses, and with what message;
* `Compiler.program`, `Compiler.compute`: the sources checked, handed over, and the program kept;
* `Compiler.release`: every program kept is released, and none is kept any more;
* `Compiler.act`: one of these actions;
* `Device.dryRun`: a device without hardware, which refuses sources that hold a mark.
-/
import ShaderPreprocessor.Event

namespace ShaderPreprocessor

/-! ### Devices -/

/-- What a device is called with. -/
inductive DeviceCall where
  /-- The sources of a program, as far as there are any. -/
  | program (vertex fragment geometry : Option String)
  /-- The source of a compute shader. -/
  | compute (source : Option String)
  deriving DecidableEq, Repr

/-- The sources of a call, in order. -/
def DeviceCall.sources : DeviceCall → List String
  | program vertex fragment geometry => [vertex, fragment, geometry].filterMap id
  | compute source => [source].filterMap id

/-- A device: the message with which it refuses a call, or none for a call that makes a program. -/
abbrev Device := DeviceCall → Option String

namespace Device

/-- Whether a text holds a mark. -/
def holdsMark (mark : List Char) : List Char → Bool
  | [] => mark.isEmpty
  | c :: text => mark.isPrefixOf (c :: text) || holdsMark mark text

/-- The device that refuses the first source with a mark in it. -/
def dryRun : Device := fun call =>
  (call.sources.find? fun source => holdsMark "@fail".toList source.toList).map
    fun source => "cannot compile: " ++ source

end Device

/-! ### Errors -/

/-- Why no program is made. -/
inductive CompileError where
  /-- A shader for a stage is not GLSL. -/
  | notGlsl (wanted : Stage) (got : Processed)
  /-- A shader is made for another stage. -/
  | wrongStage (wanted got : Stage)
  /-- A geometry shader is not GLSL. -/
  | geometryNotGlsl
  /-- The device refuses. -/
  | refused (message : String)
  deriving DecidableEq, Repr

namespace CompileError

/-- The kind of a processed shader, as messages name it. -/
def kindName : Processed → String
  | .text .wgsl _ => "ProcessedWgsl"
  | .text (.glsl _) _ => "ProcessedGlsl"
  | .spirv _ => "ProcessedSpirV"

/-- What is said about a program that is not made. -/
def message : CompileError → String
  | notGlsl wanted got =>
    "Expected a processed GLSL " ++ wanted.name ++ " shader, got " ++ kindName got ++ "."
  | wrongStage wanted got =>
    "Expected a " ++ wanted.name ++ " shader, got a " ++ got.name ++ " shader."
  | geometryNotGlsl => "Geometry shader must be processed GLSL."
  | refused message => message

end CompileError

/-! ### The compiler -/

/-- The compiler and the device's side of the story. -/
structure Compiler where
  /-- The calls that the device has seen, in order. -/
  calls : List DeviceCall
  /-- How often each program was released, in the order in which they were made. -/
  released : List Nat
  /-- The programs that the compiler keeps, by their place in that order. -/
  kept : List Nat
  deriving DecidableEq, Repr

namespace Compiler

/-- A compiler that has made nothing. -/
def new : Compiler := ⟨[], [], []⟩

/-- The text of a GLSL shader for a stage. No shader is no text. -/
def stageSource (stage : Stage) : Option Processed → Except CompileError (Option String)
  | none => .ok none
  | some (.text (.glsl other) content) =>
    if other = stage then .ok (some content) else .error (.wrongStage stage other)
  | some got => .error (.notGlsl stage got)

/-- The text of a geometry shader, which has no stage of its own. No shader is no text. -/
def geometrySource : Option Processed → Except CompileError (Option String)
  | none => .ok none
  | some (.text (.glsl _) content) => .ok (some content)
  | some _ => .error .geometryNotGlsl

/-- The call for a program, if its shaders are right. -/
def programCall (vertex fragment geometry : Option Processed) :
    Except CompileError DeviceCall :=
  match stageSource .vertex vertex with
  | .error e => .error e
  | .ok vertex =>
    match stageSource .fragment fragment with
    | .error e => .error e
    | .ok fragment => (geometrySource geometry).map (.program vertex fragment)

/-- The call for a compute shader, if it is right. -/
def computeCall (shader : Option Processed) : Except CompileError DeviceCall :=
  (stageSource .compute shader).map .compute

/-- The device called, and the program kept that it makes. -/
def hand (device : Device) (refusal : String → Event) (call : DeviceCall) (c : Compiler) :
    Compiler × Traced Event CompileError DeviceCall :=
  match device call with
  | some message =>
    ({ c with calls := c.calls ++ [call] }, ⟨[refusal message], .error (.refused message)⟩)
  | none =>
    (⟨c.calls ++ [call], c.released ++ [0], c.kept ++ [c.released.length]⟩, .pure call)

/-- A program made from shaders for its stages. -/
def program (device : Device) (vertex fragment geometry : Option Processed) (c : Compiler) :
    Compiler × Traced Event CompileError DeviceCall :=
  match programCall vertex fragment geometry with
  | .error e => (c, .fail e)
  | .ok call => c.hand device .programFailed call

/-- A program made from a compute shader. -/
def compute (device : Device) (shader : Option Processed) (c : Compiler) :
    Compiler × Traced Event CompileError DeviceCall :=
  match computeCall shader with
  | .error e => (c, .fail e)
  | .ok call => c.hand device .computeFailed call

/-- Every program that is kept released, in order. -/
def release (c : Compiler) : Compiler where
  calls := c.calls
  released := c.kept.foldl (fun released i => released.modify i (· + 1)) c.released
  kept := []

/-- What a compiler is asked. -/
inductive Action where
  /-- Make a program from shaders for its stages. -/
  | program (vertex fragment geometry : Option Processed)
  /-- Make a program from a compute shader. -/
  | compute (shader : Option Processed)
  /-- Release all programs. -/
  | release
  deriving DecidableEq, Repr

/-- One action: the compiler after it, and the call that made a program, if one was made. -/
def act (device : Device) (c : Compiler) :
    Action → Compiler × Traced Event CompileError (Option DeviceCall)
  | .program vertex fragment geometry =>
    let (c, result) := c.program device vertex fragment geometry
    (c, result.map some)
  | .compute shader =>
    let (c, result) := c.compute device shader
    (c, result.map some)
  | .release => (c.release, .pure none)

end Compiler

end ShaderPreprocessor
