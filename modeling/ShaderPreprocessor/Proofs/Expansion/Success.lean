/-
When preprocessing succeeds.

* `exists_expandLines_ok_iff`: the lines of one text can be expanded if their blocks are balanced
  and every import in them has a text, whatever block it is in;
* `Succeeds`: a shader can be expanded within a nesting depth, and `succeeds_succ_iff`: it can if
  its own lines are balanced and every shader that it imports is text of its family that can be
  expanded one level deeper;
* `Library.Processable`: the same, said of all shaders that a shader leads to. Their references
  resolve, they are text of one family, their blocks are balanced, and no one leads to itself;
* `Succeeds.processable` and `Processable.succeeds`: the two agree. Imports that lead nowhere twice
  are nested at most as deep as there are stored shaders;
* `preprocess_ok_iff`: a shader can be preprocessed exactly if it is processable, and comes to text
  of its own dialect; no larger depth lets more shaders through.
-/
import ShaderPreprocessor.Proofs.Expansion.Depth
import ShaderPreprocessor.Proofs.Expansion.Imports
import ShaderPreprocessor.Proofs.Expansion.Passage

namespace ShaderPreprocessor

open Text Relation

/-! ### The lines of one text -/

/-- Lines that can be expanded at a depth of open blocks: every import among them has a text, and
they close the open blocks and no more. -/
structure Expandable (splice : ImportRef → Expanding (List Char)) (depth : ℤ)
    (lines : List Line) : Prop where
  /-- Every import has a text. -/
  imports : ∀ line ∈ lines, ∀ ref, Directive.ofLine? line = some (.splice ref) →
    ∃ text, (splice ref).outcome = .ok text
  /-- No block is closed that is not open. -/
  unclosed : Unclosed depth lines
  /-- No block is left open. -/
  settled : depth + nesting lines = 0

section

variable {splice : ImportRef → Expanding (List Char)} {defs : List String}

/-- Lines can be expanded if they can be passed and close all blocks that are open. -/
lemma expandable_iff {depth : ℤ} {ls : List Line} :
    Expandable splice depth ls ↔
      Passable (fun ref => ∃ text, (splice ref).outcome = .ok text) depth ls ∧
        depth + nesting ls = 0 :=
  ⟨fun h => ⟨⟨h.imports, h.unclosed⟩, h.settled⟩, fun h => ⟨h.1.imports, h.1.unclosed, h.2⟩⟩

/-- Lines can be expanded from a scope exactly if they are expandable at its depth. -/
lemma exists_expandLines_ok_iff {scope : Scope} {ls : List Line} :
    (∃ text, (expandLines splice defs scope ls).outcome = .ok text) ↔
      Expandable splice scope.outer.length ls := by
  rw [expandable_iff, expandLines_eq_passLines, ← exists_passLines_ok_iff]
  constructor
  · rintro ⟨text, htext⟩
    obtain ⟨passed, hpassed, hend⟩ := Traced.bind_outcome_eq_ok_iff.1 htext
    split at hend
    · next houter =>
        refine ⟨⟨passed, hpassed⟩, ?_⟩
        rw [← length_outer_of_passLines hpassed, houter]
        rfl
    · cases hend
  · rintro ⟨⟨passed, hpassed⟩, hsettled⟩
    have houter : passed.2.outer = [] := by
      have hlength := length_outer_of_passLines hpassed
      rw [hsettled] at hlength
      exact List.length_eq_zero_iff.1 (Int.natCast_eq_zero.1 hlength)
    exact ⟨passed.1, Traced.bind_outcome_eq_ok_iff.2 ⟨passed, hpassed, by rw [if_pos houter]; rfl⟩⟩

end

/-! ### Shaders within a nesting depth -/

/-- A shader can be expanded with imports nested to a depth. -/
def Succeeds (library : Library) (defs : List String) (depth : ℕ) (shader : Shader) : Prop :=
  ∃ result, (expand library defs depth shader).outcome = .ok result

lemma Dialect.sameFamily_symm {d e : Dialect} (h : d.sameFamily e = true) :
    e.sameFamily d = true := by
  cases d <;> cases e <;> simp_all [sameFamily]

lemma Dialect.sameFamily_trans {d e f : Dialect} (h : d.sameFamily e = true)
    (h' : e.sameFamily f = true) : d.sameFamily f = true := by
  cases d <;> cases e <;> cases f <;> simp_all [sameFamily]

section

variable {library : Library} {defs : List String}

lemma Succeeds.mono {depth depth' : ℕ} {shader : Shader} (h : Succeeds library defs depth shader)
    (hle : depth ≤ depth') : Succeeds library defs depth' shader := by
  obtain ⟨result, hresult⟩ := h
  exact ⟨result, expand_ok_of_le hle hresult⟩

/-- A shader that comes to text is text of the same dialect. -/
lemma source_of_expand_text {depth : ℕ} {shader : Shader} {dialect : Dialect} {text : String}
    (h : (expand library defs depth shader).outcome = .ok (.text dialect text)) :
    ∃ content, shader.source = .text dialect content := by
  cases depth with
  | zero => cases h
  | succ depth =>
      rw [expand] at h
      split at h
      · split at h <;> cases h
      · next other content hsource =>
          obtain ⟨_, _, heq⟩ := Traced.map_outcome_eq_ok_iff.1 h
          cases heq
          exact ⟨content, hsource⟩

/-- A text that can be expanded comes to text of the same dialect. -/
lemma expand_text_of_succeeds {depth : ℕ} {shader : Shader} {dialect : Dialect} {content : String}
    {result : Processed} (hsource : shader.source = .text dialect content)
    (h : (expand library defs depth shader).outcome = .ok result) :
    ∃ text, result = .text dialect text := by
  cases depth with
  | zero => cases h
  | succ depth =>
      obtain ⟨text, -, rfl⟩ := (expand_text_outcome_eq_ok_iff hsource).1 h
      exact ⟨_, rfl⟩

/-- A text can be expanded if its blocks are balanced and each of its references leads to text of
its family that can be expanded one level deeper. -/
lemma succeeds_succ_iff {depth : ℕ} {shader : Shader} {dialect : Dialect} {content : String}
    (hsource : shader.source = .text dialect content) :
    Succeeds library defs (depth + 1) shader ↔
      Balanced (lines content.toList) ∧ ∀ ref ∈ shader.imports, ∃ h imported other text,
        library.resolve? ref = some (h, imported) ∧ imported.source = .text other text ∧
          dialect.sameFamily other = true ∧ Succeeds library defs depth imported := by
  have himports : shader.imports = importRefs content := by rw [Shader.imports, hsource]; rfl
  have hlines : Succeeds library defs (depth + 1) shader ↔
      Expandable (spliceRef library dialect (expand library defs depth)) 0
        (lines content.toList) := by
    have hroot : (Scope.root.outer.length : ℤ) = 0 := rfl
    rw [← hroot, ← exists_expandLines_ok_iff]
    simp only [Succeeds, expand_text_outcome_eq_ok_iff hsource]
    constructor
    · rintro ⟨-, text, htext, -⟩
      exact ⟨text, htext⟩
    · rintro ⟨text, htext⟩
      exact ⟨_, text, htext, rfl⟩
  rw [hlines, himports]
  constructor
  · rintro ⟨hexpand, hunclosed, hsettled⟩
    refine ⟨⟨hunclosed, by simpa using hsettled⟩, fun ref href => ?_⟩
    obtain ⟨line, hline, hdirective⟩ := mem_importRefs_iff.1 href
    obtain ⟨part, hpart⟩ := hexpand line hline ref hdirective
    obtain ⟨h, imported, other, text, hresolve, himported, hfamily, -⟩ :=
      spliceRef_outcome_eq_ok_iff.1 hpart
    obtain ⟨text', htext'⟩ := source_of_expand_text himported
    exact ⟨h, imported, other, text', hresolve, htext', hfamily, _, himported⟩
  · rintro ⟨hbalanced, hrefs⟩
    have hsettled : 0 + nesting (lines content.toList) = 0 := by simpa using hbalanced.settled
    refine ⟨fun line hline ref hdirective => ?_, hbalanced.unclosed, hsettled⟩
    obtain ⟨h, imported, other, text, hresolve, hother, hfamily, result, hresult⟩ :=
      hrefs ref (mem_importRefs_iff.2 ⟨line, hline, hdirective⟩)
    obtain ⟨text', rfl⟩ := expand_text_of_succeeds hother hresult
    exact ⟨_, spliceRef_outcome_eq_ok_iff.2
      ⟨h, imported, other, text', hresolve, hresult, hfamily, rfl⟩⟩

end

/-! ### All shaders that a shader leads to -/

/-- A shader of a dialect that nothing in the shaders it leads to stands against. -/
structure Library.Processable (library : Library) (dialect : Dialect) (shader : Shader) : Prop where
  /-- Every reference leads to a stored shader. -/
  resolved : ∀ s, ReflTransGen library.Imports shader s → ∀ ref ∈ s.imports,
    ∃ h imported, library.resolve? ref = some (h, imported)
  /-- All shaders are text of one family. -/
  sameFamily : ∀ s, ReflTransGen library.Imports shader s →
    ∃ other text, s.source = .text other text ∧ dialect.sameFamily other = true
  /-- Every block that is opened is closed in the same text, and no other. -/
  balanced : ∀ s, ReflTransGen library.Imports shader s → ∀ other text,
    s.source = .text other text →
    Balanced (lines text.toList)
  /-- No shader leads to itself. -/
  acyclic : ∀ s, ReflTransGen library.Imports shader s → ¬ TransGen library.Imports s s

section

variable {library : Library} {defs : List String}

/-- A shader that imports another is text. -/
lemma Library.Imports.source {shader imported : Shader} (h : library.Imports shader imported) :
    ∃ dialect content, shader.source = .text dialect content := by
  obtain ⟨ref, href, -⟩ := h
  cases hsource : shader.source with
  | text dialect content => exact ⟨dialect, content, rfl⟩
  | spirv data => simp [Shader.imports, hsource, Source.imports] at href

/-- What a shader imports can be expanded one level deeper, and is text of its family. -/
lemma Succeeds.imported {depth : ℕ} {shader imported : Shader} {dialect : Dialect}
    {content : String} (h : Succeeds library defs depth shader)
    (hsource : shader.source = .text dialect content) (hstep : library.Imports shader imported) :
    ∃ depth', depth = depth' + 1 ∧ Succeeds library defs depth' imported ∧
      ∃ other text, imported.source = .text other text ∧ dialect.sameFamily other = true := by
  cases depth with
  | zero =>
      obtain ⟨result, hresult⟩ := h
      cases hresult
  | succ depth =>
      obtain ⟨ref, href, handle, hresolve⟩ := hstep
      obtain ⟨handle', imported', other, text, hresolve', hother, hfamily, hdeep⟩ :=
        ((succeeds_succ_iff hsource).1 h).2 ref href
      rw [hresolve] at hresolve'
      cases hresolve'
      exact ⟨depth, rfl, hdeep, other, text, hother, hfamily⟩

/-- What a shader leads to can be expanded within a smaller depth. -/
lemma Succeeds.deeper {depth : ℕ} {shader s : Shader} (h : Succeeds library defs depth shader)
    (hpath : TransGen library.Imports shader s) :
    ∃ depth', depth' < depth ∧ Succeeds library defs depth' s := by
  induction hpath with
  | single hstep =>
      obtain ⟨dialect, content, hsource⟩ := hstep.source
      obtain ⟨depth', rfl, hdeep, -⟩ := h.imported hsource hstep
      exact ⟨depth', Nat.lt_succ_self _, hdeep⟩
  | tail _ hstep ih =>
      obtain ⟨depth', hlt, hmiddle⟩ := ih
      obtain ⟨dialect, content, hsource⟩ := hstep.source
      obtain ⟨depth'', rfl, hdeep, -⟩ := hmiddle.imported hsource hstep
      exact ⟨depth'', by omega, hdeep⟩

/-- A shader that can be expanded does not lead to itself: from the least depth that is enough for
it the way round would lead to a smaller one. -/
lemma Succeeds.not_cyclic {depth : ℕ} {shader : Shader} (h : Succeeds library defs depth shader) :
    ¬ TransGen library.Imports shader shader := by
  intro hcycle
  induction depth using Nat.strong_induction_on with
  | _ depth ih =>
      obtain ⟨depth', hlt, hdeep⟩ := h.deeper hcycle
      exact ih depth' hlt hdeep

/-- All that a shader leads to can be expanded if the shader can, and is text of its family. -/
lemma Succeeds.reached {depth : ℕ} {shader s : Shader} {dialect : Dialect} {content : String}
    (h : Succeeds library defs depth shader) (hsource : shader.source = .text dialect content)
    (hpath : ReflTransGen library.Imports shader s) :
    Succeeds library defs depth s ∧
      ∃ other text, s.source = .text other text ∧ dialect.sameFamily other = true := by
  induction hpath with
  | refl => exact ⟨h, dialect, content, hsource, Dialect.sameFamily_refl dialect⟩
  | tail _ hstep ih =>
      obtain ⟨hmiddle, other, text, hother, hfamily⟩ := ih
      obtain ⟨depth', rfl, hdeep, other', text', hother', hfamily'⟩ :=
        hmiddle.imported hother hstep
      exact ⟨hdeep.mono (Nat.le_succ _), other', text', hother',
        Dialect.sameFamily_trans hfamily hfamily'⟩

/-- A text that can be expanded is processable. -/
lemma Succeeds.processable {depth : ℕ} {shader : Shader} {dialect : Dialect} {content : String}
    (h : Succeeds library defs depth shader) (hsource : shader.source = .text dialect content) :
    library.Processable dialect shader := by
  -- one level more is enough, and lets the lines of every reached shader be looked at
  have hlocal : ∀ s, ReflTransGen library.Imports shader s → ∀ other text,
      s.source = .text other text → Balanced (lines text.toList) ∧ ∀ ref ∈ s.imports,
        ∃ h imported other' text', library.resolve? ref = some (h, imported) ∧
          imported.source = .text other' text' ∧ other.sameFamily other' = true ∧
            Succeeds library defs depth imported := by
    intro s hpath other text hother
    exact (succeeds_succ_iff hother).1 ((h.reached hsource hpath).1.mono (Nat.le_succ _))
  constructor
  case resolved =>
    intro s hpath ref href
    obtain ⟨-, other, text, hother, -⟩ := h.reached hsource hpath
    obtain ⟨handle, imported, -, -, hresolve, -⟩ := (hlocal s hpath other text hother).2 ref href
    exact ⟨handle, imported, hresolve⟩
  case sameFamily =>
    intro s hpath
    exact (h.reached hsource hpath).2
  case balanced =>
    intro s hpath other text hother
    exact (hlocal s hpath other text hother).1
  case acyclic =>
    intro s hpath
    exact (h.reached hsource hpath).1.not_cyclic

/-- A processable shader can be expanded within the depth of the library, since its imports are
nested without a cycle. -/
lemma Library.Processable.succeeds {shader : Shader} {dialect : Dialect}
    (h : library.Processable dialect shader) :
    Succeeds library defs library.depthBound shader := by
  refine library.acyclic_induction (fun s t hst => hst.stored) h.acyclic
    fun depth s hpath hbelow => ?_
  obtain ⟨other, text, hother, hfamily⟩ := h.sameFamily s hpath
  refine (succeeds_succ_iff hother).2 ⟨h.balanced s hpath other text hother, fun ref href => ?_⟩
  obtain ⟨g, imported, hresolve⟩ := h.resolved s hpath ref href
  have hstep : library.Imports s imported := ⟨ref, href, g, hresolve⟩
  obtain ⟨other', text', hother', hfamily'⟩ := h.sameFamily imported (hpath.tail hstep)
  exact ⟨g, imported, other', text', hresolve, hother',
    Dialect.sameFamily_trans (Dialect.sameFamily_symm hfamily) hfamily', hbelow imported hstep⟩

end

/-- **When preprocessing succeeds.** A text can be preprocessed exactly if it is processable: all
that it leads to resolves, is text of its family, has balanced blocks and does not lead to itself. A
result of any nesting depth is the result, and is text of the dialect of the shader. -/
theorem preprocess_ok_iff (library : Library) (defs : List String) (dialect : Dialect)
    (content : String) (importPath : Option ImportRef) :
    ((∃ result,
        (library.preprocess defs ⟨.text dialect content, importPath⟩).outcome = .ok result) ↔
      library.Processable dialect ⟨.text dialect content, importPath⟩) ∧
    ∀ depth result,
      (expand library defs depth ⟨.text dialect content, importPath⟩).outcome = .ok result →
        (library.preprocess defs ⟨.text dialect content, importPath⟩).outcome = .ok result ∧
          ∃ text, result = .text dialect text := by
  refine ⟨⟨fun h => Succeeds.processable h rfl, fun h => h.succeeds⟩, fun depth result h => ?_⟩
  refine ⟨?_, expand_text_of_succeeds rfl h⟩
  have hprocessable := Succeeds.processable ⟨result, h⟩ rfl
  obtain ⟨result', hresult'⟩ : Succeeds library defs library.depthBound _ :=
    hprocessable.succeeds
  -- the two depths agree at the larger of them
  have hle := expand_ok_of_le (Nat.le_max_left depth library.depthBound) h
  have hle' := expand_ok_of_le (Nat.le_max_right depth library.depthBound) hresult'
  rw [hle] at hle'
  cases hle'
  exact hresult'

/-- Two imports deep, with a stage that differs from that of the shader. -/
theorem preprocess_ok_two_deep :
    Library.Processable
      ⟨.ofList [(⟨3⟩, ⟨.text (.glsl .vertex) "#ifdef A\n#import low\n#endif", none⟩),
        (⟨5⟩, ⟨.text (.glsl .compute) "low", none⟩)],
        .ofList [(.asset "mid", ⟨3⟩), (.custom "low", ⟨5⟩)]⟩
      (.glsl .fragment) ⟨.text (.glsl .fragment) "#import \"mid\"", none⟩ ∧
    ∃ text, Processed.text (.glsl .fragment) "low\n" = .text (.glsl .fragment) text :=
  ⟨(preprocess_ok_iff _ ["A"] _ _ _).1.1 ⟨.text (.glsl .fragment) "low\n", rfl⟩,
    ((preprocess_ok_iff
      ⟨.ofList [(⟨3⟩, ⟨.text (.glsl .vertex) "#ifdef A\n#import low\n#endif", none⟩),
        (⟨5⟩, ⟨.text (.glsl .compute) "low", none⟩)],
        .ofList [(.asset "mid", ⟨3⟩), (.custom "low", ⟨5⟩)]⟩
      ["A"] (.glsl .fragment) "#import \"mid\"" none).2 7 _ rfl).2⟩

end ShaderPreprocessor
