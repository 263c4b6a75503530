/-
Shader files: how the bytes of a file become a shader, or why they do not.

* `LoadError`: what may go wrong, from the name of the file to its bytes;
* `Settings.textOf`, `Settings.shaderOf`: bytes turned into text and into a shader;
* `Settings.readShader`: a file read. A file whose name tells nothing is not opened, nor is a text
  under a name of an encoding that holds a NUL character.
-/
import ShaderPreprocessor.FileTree
import ShaderPreprocessor.Settings
import ShaderPreprocessor.Text.Encoding

namespace ShaderPreprocessor

open Text

/-- Why a file does not become a shader. -/
inductive LoadError where
  /-- The file cannot be opened. -/
  | access (error : AccessError)
  /-- The file is not text in its encoding. -/
  | undecodable (error : DecodeError)
  /-- The name of the encoding leads to none. -/
  | unknownEncoding (error : EncodingError)
  /-- The file name does not tell what the file is. -/
  | unknownDialect (path : Path)
  deriving DecidableEq, Repr

namespace LoadError

/-- What is said about a file that does not become a shader. -/
def message : LoadError → String
  | access error => error.message
  | undecodable error => error.message
  | unknownEncoding error => error.message
  | unknownDialect path => "Cannot determine shader dialect for " ++ path.toText

/-- Whether the fault lies in the file and not in the settings. Only such faults are reported and
undo what led to them. A name of an encoding with a NUL character in it keeps the file from being
opened and counts as a fault of the file. -/
def isFileFault : LoadError → Bool
  | unknownEncoding error => error = .nulInName
  | _ => true

end LoadError

namespace Settings

/-- The text of the bytes of a file. Its line ends become line feeds. -/
def textOf (settings : Settings) (data : List UInt8) : Except LoadError String :=
  match settings.decoder with
  | .error e => .error (.unknownEncoding e)
  | .ok decode =>
    match decode data with
    | .ok text => .ok (String.ofList (unifyNewlines text))
    | .error e => .error (.undecodable e)

/-- The shader in the bytes of a file. -/
def shaderOf (settings : Settings) (format : FileFormat) (data : List UInt8) :
    Except LoadError Shader :=
  match format with
  | .spirv => .ok ⟨.spirv data, none⟩
  | .text dialect => (settings.textOf data).map fun text => ⟨.text dialect text, none⟩

/-- The shader in a file. -/
def readShader (settings : Settings) (files : FileTree) (path : Path) : Except LoadError Shader :=
  match settings.format? path with
  | none => .error (.unknownDialect path)
  | some format =>
    if format.isText && holdsNul settings.encoding then .error (.unknownEncoding .nulInName)
    else
      match files.read path with
      | .error e => .error (.access e)
      | .ok data => settings.shaderOf format data

end Settings

end ShaderPreprocessor
