/-
Loading settings: what the names of files tell. The extension of a file name decides between
compiled modules, WGSL and GLSL, in this order; for GLSL it also tells the stage.

* `Settings`: what a loader goes by, with its usual values;
* `Settings.stage?`: the stage that a file name tells, by its last extension, or by the one before
  it if the last is `.glsl`;
* `Settings.format?`: what a file is read as;
* `Settings.decoder`: what turns bytes into text.
-/
import ShaderPreprocessor.Path
import ShaderPreprocessor.Shader
import ShaderPreprocessor.Table
import ShaderPreprocessor.Text.Encoding
import ShaderPreprocessor.Text.LowerCase

namespace ShaderPreprocessor

open Text

/-- How files become shaders. -/
structure Settings where
  /-- The extensions of WGSL files. -/
  wgslExtensions : List String := [".wgsl"]
  /-- The stages of GLSL files, by extension. -/
  glslStages : Table String Stage :=
    .ofList [(".vert", .vertex), (".frag", .fragment), (".comp", .compute)]
  /-- The extensions of compiled modules. -/
  spirvExtensions : List String := [".spv"]
  /-- The name of the encoding of text files. -/
  encoding : String := "utf-8"
  /-- Whether to load the files that a file imports. -/
  followImports : Bool := true
  /-- The codecs of the machine, for encodings that are not read here. -/
  [codecs : Codecs]

/-- What a file is read as. -/
inductive FileFormat where
  | spirv
  | text (dialect : Dialect)
  deriving DecidableEq, Repr

/-- Whether a file is text. -/
def FileFormat.isText : FileFormat → Bool
  | spirv => false
  | text _ => true

namespace Settings

/-- The stage of a list of extensions, given from the last one on. -/
def stageOf (settings : Settings) : List String → Option Stage
  | [] => none
  | last :: others =>
    match settings.glslStages.get? last with
    | some stage => some stage
    | none =>
      match others with
      | [] => none
      | second :: _ => if last = ".glsl" then settings.glslStages.get? second else none

/-- The stage that the name of a file tells. -/
def stage? (settings : Settings) (path : Path) : Option Stage :=
  settings.stageOf (path.suffixes.map lower).reverse

/-- What a file of this name is read as. -/
def format? (settings : Settings) (path : Path) : Option FileFormat :=
  let extension := lower path.suffix
  if extension ∈ settings.spirvExtensions then some .spirv
  else if extension ∈ settings.wgslExtensions then some (.text .wgsl)
  else (settings.stage? path).map fun stage => .text (.glsl stage)

/-- What turns the bytes of a file into text. -/
def decoder (settings : Settings) :
    Except EncodingError (List UInt8 → Except DecodeError (List Char)) :=
  settings.codecs.decoder settings.encoding

end Settings

end ShaderPreprocessor
