/-
What an expansion depends on among the defined names.

* `testedName?`, `Shader.testedNames`: the names that lines ask for, whatever block they are in;
* `Library.AlikeFor`: two lists of names give the same answers to a shader and to all that it
  imports. It is inherited by what is imported (`AlikeFor.imported`), and lists of the same names
  are alike for every shader (`AlikeFor.of_same`);
* `Scope.next?_congr`: scopes go by the tested names alone;
* `expandLines_eq_of_tested`, `expand_eq_of_alike`: so do the lines of one text, and shaders with
  all that they import;
* `preprocess_eq_of_tested`: preprocessing goes by the tested names alone.
-/
import ShaderPreprocessor.Proofs.Expansion.Imports
import ShaderPreprocessor.Proofs.Expansion.Steps

namespace ShaderPreprocessor

open Text Relation

/-! ### Names that are tested -/

/-- The name that a line tests, if it opens a block. -/
def testedName? (line : Line) : Option String :=
  match Directive.ofLine? line with
  | some (.ifdef name) => some name
  | some (.ifndef name) => some name
  | _ => none

/-- The names that the lines of a shader test. A compiled module tests none. -/
def Shader.testedNames (shader : Shader) : List String :=
  match shader.source with
  | .text _ content => (lines content.toList).filterMap testedName?
  | .spirv _ => []

/-- Two lists of names are alike for a shader: names are defined in both or in none of them, and
they hold the same of the names that the shader tests, or that anything tests that it imports. -/
structure Library.AlikeFor (library : Library) (defs defs' : List String) (shader : Shader) :
    Prop where
  /-- Names are defined in both cases, or in none. -/
  empty : defs = [] ↔ defs' = []
  /-- Of the tested names the same are defined. -/
  tested : ∀ s, ReflTransGen library.Imports shader s → ∀ name ∈ s.testedNames,
    (name ∈ defs ↔ name ∈ defs')

namespace Library.AlikeFor

variable {library : Library} {defs defs' : List String} {shader : Shader}

/-- What is alike for a shader is alike for all that it imports. -/
lemma imported (h : library.AlikeFor defs defs' shader) {other : Shader}
    (himports : library.Imports shader other) : library.AlikeFor defs defs' other :=
  ⟨h.empty, fun s hpath => h.tested s (.head himports hpath)⟩

/-- Lists of the same names are alike, in whatever order and how often the names stand in them. -/
lemma of_same (hsame : ∀ name, name ∈ defs ↔ name ∈ defs') :
    library.AlikeFor defs defs' shader where
  empty := by simp only [List.eq_nil_iff_forall_not_mem, hsame]
  tested _ _ name _ := hsame name

end Library.AlikeFor

/-! ### The lines of one text -/

section

variable {defs defs' : List String} {scope : Scope}

/-- The scope after a line goes by the name that the line tests. -/
lemma Scope.next?_congr {line : Line}
    (h : ∀ name, testedName? line = some name → (name ∈ defs ↔ name ∈ defs')) :
    scope.next? defs line = scope.next? defs' line := by
  have hcontains : ∀ name, testedName? line = some name →
      defs.contains name = defs'.contains name := fun name hname => by
    rw [Bool.eq_iff_iff, List.contains_iff_mem, List.contains_iff_mem, h name hname]
  unfold next?
  cases hline : Directive.ofLine? line with
  | none => rfl
  | some directive =>
      cases directive with
      | ifdef name | ifndef name => simp only [hcontains name (by rw [testedName?, hline])]
      | otherwise | endif | splice => rfl

/-- Lines come to the same if the tests among them have the same answers, and the imports among them
come to the same. -/
lemma expandLines_eq_of_tested {splice splice' : ImportRef → Expanding (List Char)}
    {ls : List Line}
    (htested : ∀ name ∈ ls.filterMap testedName?, (name ∈ defs ↔ name ∈ defs'))
    (hsplice : ∀ line ∈ ls, ∀ ref, Directive.ofLine? line = some (.splice ref) →
      splice' ref = splice ref) :
    expandLines splice defs scope ls = expandLines splice' defs' scope ls := by
  induction ls generalizing scope with
  | nil => rfl
  | cons line ls ih =>
      have hnext : scope.next? defs line = scope.next? defs' line :=
        Scope.next?_congr fun name hname =>
          htested name (List.mem_filterMap.2 ⟨line, List.mem_cons_self, hname⟩)
      have hrest : ∀ scope', expandLines splice defs scope' ls =
          expandLines splice' defs' scope' ls := fun scope' =>
        ih (fun name hname => htested name
            (((List.sublist_cons_self line ls).filterMap testedName?).mem hname))
          fun l hl => hsplice l (List.mem_cons_of_mem _ hl)
      rw [expandLines_cons, expandLines_cons, hnext,
        ownText_congr (hsplice line List.mem_cons_self)]
      simp only [hrest]

end

/-! ### Shaders -/

section

variable {library : Library} {defs defs' : List String} {shader : Shader}

/-- What an import comes to goes by what becomes of the shader that it leads to. -/
lemma spliceRef_eq_of_process {dialect : Dialect} {process process' : Shader → Expanding Processed}
    {ref : ImportRef} (hprocess : ∀ h imported, library.resolve? ref = some (h, imported) →
      process imported = process' imported) :
    spliceRef library dialect process ref = spliceRef library dialect process' ref := by
  unfold spliceRef
  split
  · rfl
  · next h imported hresolve => rw [hprocess h imported hresolve]

/-- Under names that are alike for it, a shader comes to the same at every depth. -/
lemma expand_eq_of_alike {depth : ℕ} (h : library.AlikeFor defs defs' shader) :
    expand library defs depth shader = expand library defs' depth shader := by
  induction depth generalizing shader with
  | zero => rfl
  | succ depth ih =>
      cases hsource : shader.source with
      | spirv data => simp only [expand_module hsource, h.empty]
      | text dialect content =>
          have hnames : shader.testedNames = (lines content.toList).filterMap testedName? := by
            rw [Shader.testedNames, hsource]
          have htested := h.tested shader .refl
          rw [hnames] at htested
          have hsplice : ∀ line ∈ lines content.toList, ∀ ref,
              Directive.ofLine? line = some (.splice ref) →
              spliceRef library dialect (expand library defs' depth) ref =
                spliceRef library dialect (expand library defs depth) ref := by
            intro line hline ref href
            have hmem : ref ∈ shader.imports := (mem_imports_iff hsource).2 ⟨line, hline, href⟩
            refine spliceRef_eq_of_process fun g other hresolve => ?_
            exact (ih (h.imported ⟨ref, hmem, g, hresolve⟩)).symm
          rw [expand_text hsource, expand_text hsource,
            expandLines_eq_of_tested htested hsplice]

end

/-- **Tested names.** A shader is preprocessed to the same result, or fails with the same error,
under two lists of names that are both empty or both not, and that hold the same of the names that
it tests and that are tested in anything it imports, be it in a block that is kept or not. So it
does under lists of the same names, whatever their order and however often a name stands in
them. -/
theorem preprocess_eq_of_tested (library : Library) (shader : Shader) (defs defs' : List String) :
    (library.AlikeFor defs defs' shader →
      library.preprocess defs shader = library.preprocess defs' shader) ∧
    ((∀ name, name ∈ defs ↔ name ∈ defs') →
      library.preprocess defs shader = library.preprocess defs' shader) :=
  ⟨expand_eq_of_alike, fun hsame => expand_eq_of_alike (.of_same hsame)⟩

/-- A library with one shader, which tests two names. -/
def testingLibrary : Library where
  shaders := .ofList [(⟨0⟩, ⟨.text .wgsl "#ifdef A\n#ifndef B\np\n#endif\n#endif", none⟩)]
  imports := .ofList [(.custom "part", ⟨0⟩)]

/-- A shader that imports it in a block that tests a third name. -/
def testingShader : Shader := ⟨.text .wgsl "#ifdef C\n#import part\n#endif\nm", none⟩

/-- Nothing but these two shaders is reached. -/
lemma reached_testingShader {s : Shader}
    (hpath : ReflTransGen testingLibrary.Imports testingShader s) :
    s = testingShader ∨
      s = ⟨.text .wgsl "#ifdef A\n#ifndef B\np\n#endif\n#endif", none⟩ := by
  induction hpath with
  | refl => exact .inl rfl
  | @tail s t _ hstep ih =>
      obtain ⟨ref, hmem, h, hresolve⟩ := hstep
      obtain rfl | rfl := ih
      · have hpart : ref ∈ [ImportRef.custom "part"] := hmem
        rw [List.mem_singleton.1 hpart] at hresolve
        cases hresolve
        exact .inr rfl
      · have hnone : ref ∈ ([] : List ImportRef) := hmem
        cases hnone

/-- Only what is defined of `A`, `B` and `C` matters for the shader. -/
theorem preprocess_eq_of_three_tested :
    testingLibrary.AlikeFor ["A", "X"] ["Y", "A", "A"] testingShader ∧
    (testingLibrary.preprocess ["Y", "A", "A"] testingShader).outcome =
      .ok (.text .wgsl "p\nm\n") := by
  have halike : testingLibrary.AlikeFor ["A", "X"] ["Y", "A", "A"] testingShader := by
    refine ⟨by decide, fun s hpath name hname => ?_⟩
    obtain rfl | rfl := reached_testingShader hpath
    · have hc : name ∈ ["C"] := hname
      simp [List.mem_singleton.1 hc]
    · have hab : name ∈ ["A", "B"] := hname
      simp only [List.mem_cons, List.not_mem_nil, or_false] at hab
      obtain rfl | rfl := hab <;> decide
  have hresult : (testingLibrary.preprocess ["A", "X"] testingShader).outcome =
      .ok (.text .wgsl "p\nm\n") := rfl
  refine ⟨halike, ?_⟩
  rw [← (preprocess_eq_of_tested testingLibrary testingShader _ _).1 halike, hresult]

end ShaderPreprocessor
