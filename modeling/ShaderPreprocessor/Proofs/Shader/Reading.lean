/-
What it takes for a file to become a shader.

* `Settings.textOf_eq_ok_iff`: when bytes are text;
* `Settings.readShader_eq_ok_iff`, `Settings.readShader_of_text`: when a file becomes a shader, and
  which;
* `Settings.isSome_format_of_readShader`, `Settings.importPath_of_readShader`,
  `Settings.exists_text_of_dependency`: what is known of a file then;
* `Settings.isFileFault_of_readShader`: otherwise it is at fault itself, if its encoding is known;
* `Settings.decoder_of_utf8`: UTF-8 always is.
-/
import Mathlib.Tactic
import ShaderPreprocessor.Server

namespace ShaderPreprocessor.Settings

open Text

variable {settings : Settings} {files : FileTree} {path : Path} {shader : Shader}
  {dialect : Dialect} {data : List UInt8} {content : String}
  {decode : List UInt8 → Except DecodeError (List Char)}

/-! ### Text -/

/-- UTF-8 is found by its name. -/
lemma decoder_of_utf8 (hencoding : settings.encoding = "utf-8") :
    settings.decoder = .ok Encoding.utf8.decode := by
  have hname : Encoding.ofName? "utf-8" = some .utf8 := by decide +kernel
  rw [decoder, Codecs.decoder, hencoding, if_neg (by decide +kernel), if_neg (by decide)]
  dsimp only
  rw [hname]

/-- A name that leads to an encoding holds no NUL character. -/
lemma holdsNul_of_decoder (h : settings.decoder = .ok decode) :
    holdsNul settings.encoding = false := by
  rw [decoder, Codecs.decoder] at h
  split at h
  · cases h
  · next hnul => exact Bool.eq_false_iff.2 hnul

/-- Bytes are text if their encoding is known and turns them into some, which is then written with
line feeds alone. -/
lemma textOf_eq_ok_iff : settings.textOf data = .ok content ↔
    ∃ decode text, settings.decoder = .ok decode ∧ decode data = .ok text ∧
      content = String.ofList (unifyNewlines text) := by
  rw [textOf]
  cases settings.decoder with
  | error e => simp
  | ok decode => cases hdecode : decode data <;> simp [hdecode, eq_comm]

/-- Text becomes a shader as it is. -/
lemma shaderOf_text_eq_ok_iff : settings.shaderOf (.text dialect) data = .ok shader ↔
    ∃ content, settings.textOf data = .ok content ∧ shader = ⟨.text dialect content, none⟩ := by
  rw [shaderOf]
  cases settings.textOf data <;> simp [Except.map, eq_comm]

/-! ### Files that become shaders -/

/-- A file becomes a shader if its name tells what it is, it can be opened, and its bytes become
one. -/
lemma readShader_eq_ok_iff : settings.readShader files path = .ok shader ↔
    ∃ format data, settings.format? path = some format ∧ files.read path = .ok data ∧
      settings.shaderOf format data = .ok shader := by
  rw [readShader]
  cases settings.format? path with
  | none => simp
  | some format =>
      dsimp only
      split
      · next hnul =>
          -- text under a name with a NUL character would not become a shader either
          refine ⟨fun h => (by cases h), ?_⟩
          rintro ⟨format', data, hformat, -, hshader⟩
          cases hformat
          rw [Bool.and_eq_true] at hnul
          cases format with
          | spirv => cases hnul.1
          | text dialect =>
              obtain ⟨content, htext, -⟩ := shaderOf_text_eq_ok_iff.1 hshader
              obtain ⟨decode, -, hdecoder, -⟩ := textOf_eq_ok_iff.1 htext
              rw [holdsNul_of_decoder hdecoder] at hnul
              cases hnul.2
      · cases files.read path <;> simp

/-- A file whose name tells that it is text becomes a shader with its text. -/
lemma readShader_of_text (hformat : settings.format? path = some (.text dialect)) :
    settings.readShader files path = .ok shader ↔
      ∃ data content, files.read path = .ok data ∧ settings.textOf data = .ok content ∧
        shader = ⟨.text dialect content, none⟩ := by
  simp only [readShader_eq_ok_iff, hformat, Option.some.injEq, exists_eq_left',
    exists_and_left, shaderOf_text_eq_ok_iff]

/-- The name of a file that becomes a shader tells what the file is. -/
lemma isSome_format_of_readShader (hread : settings.readShader files path = .ok shader) :
    (settings.format? path).isSome := by
  obtain ⟨format, data, hformat, -⟩ := readShader_eq_ok_iff.1 hread
  rw [hformat, Option.isSome_some]

/-- A file becomes a compiled module, or text that it holds. Neither has a name of its own. -/
lemma source_of_readShader (hread : settings.readShader files path = .ok shader) :
    (∃ data, files.read path = .ok data ∧ shader = ⟨.spirv data, none⟩) ∨
    ∃ dialect data content, settings.format? path = some (.text dialect) ∧
      files.read path = .ok data ∧ settings.textOf data = .ok content ∧
      shader = ⟨.text dialect content, none⟩ := by
  obtain ⟨format, data, hformat, hdata, hshader⟩ := readShader_eq_ok_iff.1 hread
  cases format with
  | spirv =>
      cases hshader
      exact .inl ⟨data, hdata, rfl⟩
  | text dialect =>
      obtain ⟨content, htext, rfl⟩ := shaderOf_text_eq_ok_iff.1 hshader
      exact .inr ⟨dialect, data, content, hformat, hdata, htext, rfl⟩

/-- A shader is read without a name of its own. -/
lemma importPath_of_readShader (hread : settings.readShader files path = .ok shader) :
    shader.importPath = none := by
  obtain ⟨data, -, rfl⟩ | ⟨dialect, data, content, -, -, -, rfl⟩ := source_of_readShader hread <;>
    rfl

/-- A shader asks for something only if its file was decoded, and the text asks for it. -/
lemma exists_text_of_dependency {name : String}
    (hread : settings.readShader files path = .ok shader)
    (hname : name ∈ assetPaths shader.imports) :
    ∃ data text, files.read path = .ok data ∧ settings.textOf data = .ok text ∧
      name ∈ assetPaths (importRefs text) := by
  obtain ⟨data, -, rfl⟩ | ⟨dialect, data, content, -, hdata, htext, rfl⟩ :=
    source_of_readShader hread
  · cases hname
  · exact ⟨data, content, hdata, htext, hname⟩

/-- A shader in text comes from a file whose name tells so. -/
lemma text_of_readShader (hread : settings.readShader files path = .ok shader)
    (hsource : shader.source = .text dialect content) :
    settings.format? path = some (.text dialect) ∧
      ∃ data, files.read path = .ok data ∧ settings.textOf data = .ok content := by
  obtain ⟨data, -, rfl⟩ | ⟨dialect', data, content', hformat, hdata, htext, rfl⟩ :=
    source_of_readShader hread
  · cases hsource
  · cases hsource
    exact ⟨hformat, data, hdata, htext⟩

/-! ### Files that do not -/

/-- With a known encoding, a file that does not become a shader is at fault itself. -/
lemma isFileFault_of_readShader {e : LoadError} (hdecoder : settings.decoder = .ok decode)
    (hread : settings.readShader files path = .error e) : e.isFileFault = true := by
  rw [readShader] at hread
  split at hread
  · cases hread
    rfl
  · next format _ =>
      rw [holdsNul_of_decoder hdecoder, Bool.and_false, if_neg (by decide)] at hread
      split at hread
      · cases hread
        rfl
      · cases format with
        | spirv => cases hread
        | text dialect =>
            rw [shaderOf, textOf, hdecoder] at hread
            dsimp only at hread
            split at hread
            · cases hread
            · cases hread
              rfl

end ShaderPreprocessor.Settings
