/-
What a shader does not import makes no difference to it.

* `Library.Keeps`: what references lead to in one library they lead to in another one too;
* `exists_shader?_of_ok`: no reference leads nowhere in a shader that can be preprocessed, nor in
  anything that it imports;
* `Library.Keeps.preprocess_ok`: so a library that keeps what references lead to keeps all results.
  It need not keep errors: a reference that led nowhere may now lead somewhere;
* `Library.keeps_add`: a shader stored under a new handle and a new name, if any, is kept apart from
  all that was there;
* `World.Accounted.get?_handle`: the next handle of a run is new in every library;
* `preprocess_local`: the two comparisons of libraries, and a shader more in a library of a run.
-/
import ShaderPreprocessor.Proofs.Expansion.Agreement
import ShaderPreprocessor.Proofs.Expansion.Success
import ShaderPreprocessor.Proofs.Library.Handles

namespace ShaderPreprocessor

open Relation

/-! ### Libraries that keep what references lead to -/

namespace Library

/-- Every reference that leads to a shader in one library leads to the same one in another. -/
def Keeps (library library' : Library) : Prop :=
  ∀ ref shader, library.shader? ref = some shader → library'.shader? ref = some shader

variable {library library' : Library} {defs : List String} {shader : Shader}

/-- A reference leads to a shader by way of the handle that it stands for. -/
lemma shader?_eq_some_iff {ref : ImportRef} : library.shader? ref = some shader ↔
    ∃ h, library.imports.get? ref = some h ∧ library.shaders.get? h = some shader := by
  simp [shader?, resolve?, Option.bind_eq_some_iff]

/-- In a shader that can be preprocessed, and in all that it imports, every reference leads to a
shader. -/
lemma exists_shader?_of_ok {result : Processed}
    (hok : (library.preprocess defs shader).outcome = .ok result) {s : Shader}
    (hpath : ReflTransGen library.Imports shader s) {ref : ImportRef} (href : ref ∈ s.imports) :
    ∃ imported, library.shader? ref = some imported := by
  cases hsource : shader.source with
  | text dialect content =>
      obtain ⟨h, imported, hresolve⟩ :=
        (Succeeds.processable ⟨result, hok⟩ hsource).resolved s hpath ref href
      exact ⟨imported, by rw [shader?, hresolve, Option.map_some]⟩
  | spirv data =>
      -- a compiled module leads to nothing but itself, and has no references
      obtain rfl | ⟨next, hstep, -⟩ := hpath.cases_head
      · simp [Shader.imports, hsource, Source.imports] at href
      · obtain ⟨dialect, content, htext⟩ := hstep.source
        rw [hsource] at htext
        cases htext

/-- What can be preprocessed in a library comes to the same in one that keeps what references
lead to. -/
lemma Keeps.preprocess_ok (h : library.Keeps library') {result : Processed}
    (hok : (library.preprocess defs shader).outcome = .ok result) :
    (library'.preprocess defs shader).outcome = .ok result := by
  have hagrees : library.AgreesOn library' shader := by
    intro s hpath ref href
    obtain ⟨imported, himported⟩ := exists_shader?_of_ok hok hpath href
    rw [himported, h ref imported himported]
  rw [← preprocess_outcome_congr hagrees, hok]

/-- What is stored stays so when a shader is stored under a handle that has none. -/
lemma get?_shaders_add {h g : Handle} {added : Shader} (hnew : library.shaders.get? h = none)
    (hstored : library.shaders.get? g = some shader) :
    (library.add h added).shaders.get? g = some shader := by
  have hne : h ≠ g := fun heq => by
    rw [← heq, hnew] at hstored
    cases hstored
  rwa [add, Table.get?_insert, if_neg hne]

/-- A shader stored under a handle that has none, and under a name that stands for nothing if it has
one, leaves what references lead to. -/
lemma keeps_add {h : Handle} {added : Shader} (hnew : library.shaders.get? h = none)
    (hpath : ∀ ref, added.importPath = some ref → library.imports.get? ref = none) :
    library.Keeps (library.add h added) := by
  intro ref shader hshader
  obtain ⟨g, himport, hstored⟩ := shader?_eq_some_iff.1 hshader
  refine shader?_eq_some_iff.2 ⟨g, ?_, get?_shaders_add hnew hstored⟩
  cases hown : added.importPath with
  | none => simpa only [add, hown] using himport
  | some own =>
      have hne : own ≠ ref := fun heq => by
        rw [← heq, hpath own hown] at himport
        cases himport
      simpa only [add, hown, Table.get?_insert, if_neg hne] using himport

/-- A handle is preprocessed to a result exactly if the shader is that is stored under it. -/
lemma process_outcome_eq_ok_iff {h : Handle} {result : Processed} :
    (library.process h defs).outcome = .ok result ↔
      ∃ shader, library.shaders.get? h = some shader ∧
        (library.preprocess defs shader).outcome = .ok result := by
  rw [process_outcome]
  cases library.shaders.get? h with
  | none => simp
  | some shader =>
      simp only [Option.some.injEq, exists_eq_left']
      cases (library.preprocess defs shader).outcome <;> simp [Except.mapError]

/-- A shader so stored leaves the results of all other handles. -/
lemma process_add_ok {h g : Handle} {added : Shader} {result : Processed}
    (hnew : library.shaders.get? h = none)
    (hpath : ∀ ref, added.importPath = some ref → library.imports.get? ref = none)
    (hok : (library.process g defs).outcome = .ok result) :
    ((library.add h added).process g defs).outcome = .ok result := by
  obtain ⟨shader, hstored, hresult⟩ := process_outcome_eq_ok_iff.1 hok
  exact process_outcome_eq_ok_iff.2
    ⟨shader, get?_shaders_add hnew hstored, (keeps_add hnew hpath).preprocess_ok hresult⟩

end Library

/-! ### Libraries of a run -/

/-- The handle that is issued next has a shader in no library. -/
lemma World.Accounted.get?_handle {world : World} (h : world.Accounted) {place : Place}
    {library : Library} (hlibrary : world.library? place = some library) :
    library.shaders.get? world.supply.handle = none := by
  refine Option.eq_none_iff_forall_ne_some.2 fun shader hshader => ?_
  have hissued := h.issued _ (mentions_of_stores ⟨library, shader, hlibrary, hshader⟩)
  simp [Supply.mem_upTo, Supply.handle] at hissued

/-- **Preprocessing is local to imports.** If all references in a shader and in what it imports lead
to the same shaders in two libraries, whatever their handles, it comes to the same in both: the same
result, the same error, or nesting without end. If it has a result in one library, it has the same
in every library in which the references that lead to a shader still lead to that shader. So a
shader that is added to a library in the course of a run, without a name or under one that stands
for nothing, changes no result of another handle. -/
theorem preprocess_local (library library' : Library) (defs : List String) (shader : Shader) :
    (library.AgreesOn library' shader →
      (library.preprocess defs shader).outcome = (library'.preprocess defs shader).outcome) ∧
    (library.Keeps library' → ∀ result,
      (library.preprocess defs shader).outcome = .ok result →
        (library'.preprocess defs shader).outcome = .ok result) ∧
    ∀ (libraries : ℕ) (servers : List (Path × Settings)) (files : FileTree)
      (actions : List World.Action) (place : Place) (added : Shader),
      ((World.start libraries servers files).run actions).library? place = some library →
      (∀ ref, added.importPath = some ref → library.imports.get? ref = none) →
      ∀ h result, (library.process h defs).outcome = .ok result →
        ((library.act ((World.start libraries servers files).run actions).supply
          (.add added)).2.1.process h defs).outcome = .ok result := by
  refine ⟨preprocess_outcome_congr, fun hkeeps result => hkeeps.preprocess_ok, ?_⟩
  intro libraries servers files actions place added hlibrary hpath h result hok
  have haccounted := (World.Accounted.start libraries servers files).run actions
  exact Library.process_add_ok (haccounted.get?_handle hlibrary) hpath hok

/-- A shader with a name. -/
def namedShader : Shader := ⟨.text .wgsl "p\n", some (.custom "part")⟩

/-- A shader that imports it. -/
def importingShader : Shader := ⟨.text .wgsl "#ifdef A\n#import part\n#endif\nm\n", none⟩

/-- Both in a library. -/
def smallLibrary : Library := (Library.empty.add ⟨0⟩ namedShader).add ⟨1⟩ importingShader

/-- The first one in a library with another name, which is that of a text in the other language. -/
def largeLibrary : Library :=
  (Library.empty.add ⟨3⟩ ⟨.text (.glsl .vertex) "q\n", some (.custom "other")⟩).add ⟨8⟩ namedShader

/-- The larger library keeps what references lead to in the small one. -/
lemma smallLibrary_keeps : smallLibrary.Keeps largeLibrary := by
  intro ref shader hshader
  obtain ⟨h, himport, hstored⟩ := Library.shader?_eq_some_iff.1 hshader
  by_cases href : ImportRef.custom "part" = ref
  · subst href
    cases himport
    cases hstored
    rfl
  · have hnone : smallLibrary.imports.get? ref = none := by
      simp [smallLibrary, Library.add, importingShader, namedShader, Library.empty,
        Table.get?_insert, href]
    rw [hnone] at himport
    cases himport

/-- Both libraries agree on a shader that imports the name and one that stands for nothing. -/
lemma smallLibrary_agrees :
    smallLibrary.AgreesOn largeLibrary ⟨.text .wgsl "#import part\n#import gone\n", none⟩ := by
  intro s hpath ref href
  obtain rfl | ⟨next, ⟨own, hown, h, hresolve⟩, hrest⟩ := hpath.cases_head
  · have hrefs : ref ∈ [ImportRef.custom "part", .custom "gone"] := href
    simp only [List.mem_cons, List.not_mem_nil, or_false] at hrefs
    obtain rfl | rfl := hrefs <;> rfl
  · have hrefs : own ∈ [ImportRef.custom "part", .custom "gone"] := hown
    simp only [List.mem_cons, List.not_mem_nil, or_false] at hrefs
    obtain rfl | rfl := hrefs
    · cases hresolve
      -- the named shader imports nothing
      obtain rfl | ⟨_, ⟨_, hmem, -⟩, -⟩ := hrest.cases_head
      · cases (href : ref ∈ ([] : List ImportRef))
      · cases (hmem : _ ∈ ([] : List ImportRef))
    · cases hresolve

/-- The same error and the same result in the larger library, and the same result of the second
handle when the small library comes about in a run and a shader of another name is added to it. -/
theorem preprocess_local_in_larger :
    (smallLibrary.preprocess ["B"] ⟨.text .wgsl "#import part\n#import gone\n", none⟩).outcome =
      (largeLibrary.preprocess ["B"] ⟨.text .wgsl "#import part\n#import gone\n", none⟩).outcome ∧
    (largeLibrary.preprocess ["B"] importingShader).outcome = .ok (.text .wgsl "p\nm\n") ∧
    ((smallLibrary.add ⟨2⟩ ⟨.text .wgsl "#import part\n", some (.custom "gone")⟩).process ⟨1⟩
      ["B"]).outcome = .ok (.text .wgsl "p\nm\n") := by
  have hresult : (smallLibrary.preprocess ["B"] importingShader).outcome =
      .ok (.text .wgsl "p\nm\n") := rfl
  have hrun : ((World.start 1 [] (.empty [])).run
      [.library 0 (.add namedShader), .library 0 (.add importingShader)]).library? (.library 0) =
        some smallLibrary := rfl
  refine ⟨(preprocess_local _ _ _ _).1 smallLibrary_agrees,
    (preprocess_local _ _ _ _).2.1 smallLibrary_keeps _ hresult, ?_⟩
  refine (preprocess_local smallLibrary largeLibrary ["B"] importingShader).2.2 1 [] (.empty [])
    [.library 0 (.add namedShader), .library 0 (.add importingShader)] (.library 0)
    ⟨.text .wgsl "#import part\n", some (.custom "gone")⟩ hrun (fun ref href => ?_) ⟨1⟩ _ rfl
  cases href
  rfl

end ShaderPreprocessor
