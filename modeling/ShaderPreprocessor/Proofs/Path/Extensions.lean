/-
The two ways to read the extension of a file name. Compiled modules and WGSL go by the last
extension, which is looked for from the end of a name; stages go by all extensions, which are looked
for from the start of a name, behind the dots there.

* `Path.Extended`: a name is a stem and an extension, and there is more than dots in the stem;
* `Path.Extended.suffixOf`, `Path.Extended.getLast?_suffixesOf`: both ways lead to the extension;
* `Path.exists_extended`, `Path.exists_dots`: looked for from the start, other names have no
  extensions; looked for from the end, they may have one behind dots alone;
* `Settings.stage?_of_extended`, `Settings.stage?_of_not_extended`: the stage that is told then;
* `Settings.stage?_eq_some_iff_extended`: where the last extension of a path stands for a stage,
  when the stage is told, and what becomes of the file; `Settings.stage_hidden_by_dots`: it may not
  be told.
-/
import Mathlib.Data.List.TakeWhile
import ShaderPreprocessor.Proofs.Path.Names
import ShaderPreprocessor.Proofs.Shader.Reading

namespace ShaderPreprocessor

open Text

namespace Path

/-! ### Names with extensions -/

/-- A name is a stem, a dot and an extension. There is more than dots in the stem, and in the
extension there is something, but no dot. -/
structure Extended (name stem extension : List Char) : Prop where
  /-- The stem stands before a dot, and the extension behind it. -/
  split : name = stem ++ '.' :: extension
  /-- The stem is not made of dots alone. -/
  more : ∃ c ∈ stem, c ≠ '.'
  /-- The extension is not empty. -/
  nonempty : extension ≠ []
  /-- No dot stands in the extension. -/
  noDot : '.' ∉ extension

variable {name stem extension : List Char}

namespace Extended

/-- Looked for from the end, the extension is found. -/
lemma suffixOf (h : Extended name stem extension) : suffixOf name = '.' :: extension := by
  have hcut : cutLast? '.' name = some (stem, extension) :=
    cutLast?_eq_some_iff.2 ⟨h.split, h.noDot⟩
  have hstem : stem ≠ [] := by
    obtain ⟨c, hc, -⟩ := h.more
    exact List.ne_nil_of_mem hc
  rw [Path.suffixOf, hcut]
  exact if_pos ⟨hstem, h.nonempty⟩

/-- A name does not end in a dot if it has an extension. -/
lemma getLast?_ne (h : Extended name stem extension) : name.getLast? ≠ some '.' := by
  rw [h.split, List.append_cons, List.getLast?_append_of_ne_nil _ h.nonempty]
  exact fun hlast => h.noDot (List.mem_of_getLast? hlast)

/-- The dots at the start of a name end within its stem. -/
lemma dropWhile_eq (h : Extended name stem extension) :
    name.dropWhile (· = '.') = stem.dropWhile (· = '.') ++ '.' :: extension := by
  have hstem : stem.dropWhile (· = '.') ≠ [] := by
    obtain ⟨c, hc, hne⟩ := h.more
    exact fun hnil => hne (by simpa using List.dropWhile_eq_nil_iff.1 hnil c hc)
  rw [h.split, List.dropWhile_append, if_neg (by simpa using hstem)]

/-- Looked for from the start, the extension is the last one that is found. -/
lemma getLast?_suffixesOf (h : Extended name stem extension) :
    (suffixesOf name).getLast? = some ('.' :: extension) := by
  rw [suffixesOf, if_neg h.getLast?_ne, h.dropWhile_eq, List.splitOn_append_cons_self,
    List.splitOn_eq_singleton h.noDot]
  cases hsplit : (stem.dropWhile (· = '.')).splitOn '.' with
  | nil => exact absurd hsplit (List.splitOn_ne_nil _ _)
  | cons first parts => simp

end Extended

/-- Looked for from the start, only such names have extensions. -/
lemma exists_extended (h : suffixesOf name ≠ []) :
    ∃ stem extension, Extended name stem extension := by
  rw [suffixesOf] at h
  split at h
  · exact absurd rfl h
  · next hend =>
      have hname : name.takeWhile (· = '.') ++ name.dropWhile (· = '.') = name :=
        List.takeWhile_append_dropWhile
      have hhead := List.head?_dropWhile_not (· = '.') name
      cases hcut : cutLast? '.' (name.dropWhile (· = '.')) with
      | none =>
          rw [List.splitOn_eq_singleton (cutLast?_eq_none_iff.1 hcut)] at h
          exact absurd rfl h
      | some parts =>
          obtain ⟨front, extension⟩ := parts
          obtain ⟨hrest, hdot⟩ := cutLast?_eq_some_iff.1 hcut
          rw [hrest] at hname hhead
          refine ⟨name.takeWhile (· = '.') ++ front, extension, ?_, ?_, ?_, hdot⟩
          · rw [List.append_assoc, hname]
          · -- what follows the dots at the start begins with the front, and so not with a dot
            cases front with
            | nil => simp at hhead
            | cons c front => exact ⟨c, by simp, by simpa using hhead⟩
          · rintro rfl
            rw [← hname, ← List.append_assoc] at hend
            exact hend List.getLast?_concat

/-- Looked for from the end, other names have an extension behind dots alone, if they have one. -/
lemma exists_dots (hsuffix : suffixOf name ≠ [])
    (h : ¬ ∃ stem extension, Extended name stem extension) :
    ∃ dots extension, name = dots ++ '.' :: extension ∧ dots ≠ [] ∧ ∀ c ∈ dots, c = '.' := by
  rw [suffixOf] at hsuffix
  split at hsuffix
  · next dots extension hcut =>
      obtain ⟨hname, hdot⟩ := cutLast?_eq_some_iff.1 hcut
      obtain ⟨hdots, hne⟩ := (ite_ne_right_iff.1 hsuffix).1
      refine ⟨dots, extension, hname, hdots, fun c hc => ?_⟩
      by_contra hother
      exact h ⟨dots, extension, hname, ⟨c, hc, hother⟩, hne, hdot⟩
  · exact absurd rfl hsuffix

end Path

namespace Settings

variable {settings : Settings} {path : Path} {stage : Stage} {stem extension : List Char}

/-! ### Stages -/

/-- The last extension of a name tells the stage that it stands for. -/
lemma stage?_of_extended (h : Path.Extended path.name stem extension)
    (hkey : settings.glslStages.get? (lower path.suffix) = some stage) :
    settings.stage? path = some stage := by
  have hlast : path.suffixes.getLast? = some path.suffix := by
    rw [Path.suffixes, List.getLast?_map, h.getLast?_suffixesOf, Path.suffix, h.suffixOf]
    rfl
  obtain ⟨others, hothers⟩ := List.getLast?_eq_some_iff.1 hlast
  rw [stage?, hothers, List.map_append, List.reverse_append, List.map_cons, List.map_nil,
    List.reverse_singleton, List.singleton_append]
  simp only [stageOf, hkey]

/-- No stage is told by other names. -/
lemma stage?_of_not_extended (h : ¬ ∃ stem extension, Path.Extended path.name stem extension) :
    settings.stage? path = none := by
  have hnil : Path.suffixesOf path.name = [] := not_not.1 (mt Path.exists_extended h)
  rw [stage?, Path.suffixes, hnil]
  rfl

/-- **Where the two ways of reading an extension agree.** The last extension of a path stands for a
stage, and for neither compiled modules nor WGSL. Then this stage is told exactly if the name is a
stem with more than dots in it, a dot and an extension. In this case a readable file is a GLSL
shader for the stage. In the other one no stage is told, and the file is refused without being
looked at: its last extension is empty, or stands behind dots alone. -/
theorem stage?_eq_some_iff_extended
    (hkey : settings.glslStages.get? (lower path.suffix) = some stage)
    (hspirv : lower path.suffix ∉ settings.spirvExtensions)
    (hwgsl : lower path.suffix ∉ settings.wgslExtensions) :
    (settings.stage? path = some stage ↔
      ∃ stem extension, Path.Extended path.name stem extension) ∧
    (∀ stem extension, Path.Extended path.name stem extension → ∀ (files : FileTree) data text,
      files.read path = .ok data → settings.textOf data = .ok text →
        settings.readShader files path = .ok ⟨.text (.glsl stage) text, none⟩) ∧
    ((¬ ∃ stem extension, Path.Extended path.name stem extension) →
      settings.stage? path = none ∧
      (∀ files : FileTree, settings.readShader files path = .error (.unknownDialect path)) ∧
      (path.suffix = "" ∨ ∃ dots extension,
        path.name = dots ++ '.' :: extension ∧ dots ≠ [] ∧ ∀ c ∈ dots, c = '.')) := by
  have hformat : settings.format? path =
      (settings.stage? path).map fun stage => .text (.glsl stage) := by
    rw [format?]
    exact (if_neg hspirv).trans (if_neg hwgsl)
  refine ⟨⟨fun hstage => ?_, ?_⟩, ?_, ?_⟩
  · by_contra h
    rw [stage?_of_not_extended h] at hstage
    cases hstage
  · rintro ⟨stem, extension, h⟩
    exact stage?_of_extended h hkey
  · intro stem extension h files data text hread htext
    rw [stage?_of_extended h hkey, Option.map_some] at hformat
    exact (readShader_of_text hformat).2 ⟨data, text, hread, htext, rfl⟩
  · intro h
    have hstage : settings.stage? path = none := stage?_of_not_extended h
    refine ⟨hstage, fun files => ?_, ?_⟩
    · rw [readShader, hformat, hstage]
      rfl
    · by_cases hsuffix : Path.suffixOf path.name = []
      · exact .inl (by rw [Path.suffix, hsuffix])
      · exact .inr (Path.exists_dots hsuffix h)

/-- Dots at the start, in a row and in the middle of a name do no harm, nor do capital letters. -/
theorem stage_of_dotted_name :
    ({} : Settings).glslStages.get? (lower (Path.ofText "a/..b..FRAG").suffix) = some .fragment ∧
      ({} : Settings).stage? (.ofText "a/..b..FRAG") = some .fragment := by
  have hkey : ({} : Settings).glslStages.get? (lower (Path.ofText "a/..b..FRAG").suffix) =
      some .fragment := by
    decide +kernel
  have hextended : Path.Extended (Path.ofText "a/..b..FRAG").name "..b.".toList "FRAG".toList :=
    ⟨by decide +kernel, ⟨'b', by decide⟩, by decide, by decide⟩
  exact ⟨hkey, (stage?_eq_some_iff_extended hkey (by decide +kernel) (by decide +kernel)).1.2
    ⟨_, _, hextended⟩⟩

/-- Behind dots alone the usual extension of a vertex shader is found from the end of the name, and
tells no stage; the one of WGSL does what it does elsewhere. -/
theorem stage_hidden_by_dots :
    (Path.ofText "..vert").suffix = ".vert" ∧ lower ".vert" = ".vert" ∧
    ({} : Settings).glslStages.get? ".vert" = some .vertex ∧
    ".vert" ∉ ({} : Settings).spirvExtensions ∧ ".vert" ∉ ({} : Settings).wgslExtensions ∧
    ({} : Settings).stage? (.ofText "..vert") = none ∧
    ({} : Settings).format? (.ofText "..vert") = none ∧
    ({} : Settings).format? (.ofText "..wgsl") = some (.text .wgsl) := by
  decide +kernel

end Settings

end ShaderPreprocessor
