/-
When imports are nested without end.

* `exists_endless_import`, `expandLines_endless`: the lines of one text meet the nesting bound
  exactly if an import does that is reached: the lines before it can be passed;
* `Library.Enters`: the expansion of one shader reaches an import of another one;
* `Library.Circles`: by such imports a shader leads to one that leads to itself;
* `Library.Circles.endless`: it then meets every bound, since what repeats once repeats forever;
* `endless_iff_circles`: otherwise it does not meet a bound of one level more than there are stored
  shaders;
* `expand_outcome_stable`: one level more than there are stored shaders decides what becomes of a
  shader under every larger bound.
-/
import ShaderPreprocessor.Proofs.Expansion.Depth
import ShaderPreprocessor.Proofs.Expansion.Imports
import ShaderPreprocessor.Proofs.Expansion.Steps

namespace ShaderPreprocessor

open Text Relation

/-! ### The lines of one text -/

section

variable {splice : ImportRef → Expanding (List Char)} {defs : List String}

/-- Where the lines of a text meet the bound, the import that does so is reached. -/
lemma exists_endless_import {scope : Scope} {ls : List Line}
    (h : (expandLines splice defs scope ls).Endless) :
    ∃ front line rest ref, ls = front ++ line :: rest ∧
      Directive.ofLine? line = some (.splice ref) ∧ (splice ref).Endless ∧
      Passable (fun ref => ∃ text, (splice ref).outcome = .ok text) scope.outer.length front := by
  induction ls generalizing scope with
  | nil =>
      rw [expandLines] at h
      split at h <;> cases h
  | cons line ls ih =>
      have hdepth : (0 : ℤ) ≤ scope.outer.length := by omega
      rw [expandLines_cons] at h
      split at h
      · cases h
      · next scope' hnext =>
          obtain hown | ⟨text, hown, hrest⟩ := Traced.bind_outcome_eq_error_iff.1 h
          · obtain ⟨ref, hline, href⟩ := ownText_outcome_eq_error_iff.1 hown
            exact ⟨[], line, ls, ref, rfl, hline, href, passable_nil.2 hdepth⟩
          · obtain ⟨front, line', rest, ref, rfl, hline', href, hfront⟩ :=
              ih (Traced.map_outcome_eq_error_iff.1 hrest)
            refine ⟨line :: front, line', rest, ref, rfl, hline', href, passable_cons.2 ⟨⟨hdepth,
              fun ref' hline => ⟨text, ?_⟩⟩, ?_⟩⟩
            · rw [← hown, ownText_of_splice hline]
            · rw [← Scope.length_outer_next? hnext]
              exact hfront

/-- Lines meet the bound if an import does that is reached, or one before it. -/
lemma expandLines_endless {scope : Scope} {front rest : List Line} {line : Line} {ref : ImportRef}
    (hfront : Passable (fun ref => (splice ref).Endless ∨ ∃ text, (splice ref).outcome = .ok text)
      scope.outer.length front)
    (hline : Directive.ofLine? line = some (.splice ref)) (href : (splice ref).Endless) :
    (expandLines splice defs scope (front ++ line :: rest)).Endless := by
  induction front generalizing scope with
  | nil =>
      have hopen : 0 ≤ (scope.outer.length : ℤ) + level line := by simp [level, hline]
      obtain ⟨scope', hnext⟩ := Scope.exists_next? defs hopen
      rw [List.nil_append, expandLines_cons, hnext]
      refine Traced.bind_outcome_eq_error_iff.2 (Or.inl ?_)
      rw [ownText_of_splice hline]
      exact href
  | cons l front ih =>
      obtain ⟨⟨-, himport⟩, hrest⟩ := passable_cons.1 hfront
      obtain ⟨scope', hnext⟩ := Scope.exists_next? defs hrest.nonneg
      rw [← Scope.length_outer_next? hnext] at hrest
      rw [List.cons_append, expandLines_cons, hnext]
      have hbelow := ih hrest
      cases hown : (ownText splice scope l).outcome with
      | ok text =>
          exact Traced.bind_outcome_eq_error_iff.2
            (Or.inr ⟨text, hown, Traced.map_outcome_eq_error_iff.2 hbelow⟩)
      | error e =>
          -- an import that fails can only do so at the bound
          obtain ⟨ref', hl, href'⟩ := ownText_outcome_eq_error_iff.1 hown
          refine Traced.bind_outcome_eq_error_iff.2 (Or.inl ?_)
          obtain hend | ⟨text, htext⟩ := himport ref' hl
          · rw [ownText_of_splice hl]
            exact hend
          · rw [htext] at href'
            cases href'

end

/-! ### Imports that are reached -/

section

variable {library : Library} {defs : List String} {dialect : Dialect} {ref : ImportRef}

/-- An import meets the bound exactly if the shader does that it leads to. -/
lemma spliceRef_endless_iff {process : Shader → Expanding Processed} :
    (spliceRef library dialect process ref).Endless ↔
      ∃ h imported, library.resolve? ref = some (h, imported) ∧ (process imported).Endless := by
  have hspliceable : ∀ processed, ¬ (spliceable dialect ref processed).Endless := by
    intro processed h
    cases processed with
    | text other content =>
        rw [spliceable] at h
        split at h <;> cases h
    | spirv data => cases h
  unfold spliceRef
  split
  · next hnone =>
      rw [hnone]
      constructor
      · intro hend
        cases hend
      · rintro ⟨_, _, heq, -⟩
        cases heq
  · next h imported hsome =>
      rw [hsome]
      constructor
      · intro hend
        obtain hrecord | ⟨-, -, hend⟩ := Traced.bind_outcome_eq_error_iff.1 hend
        · cases hrecord
        · obtain hprocess | ⟨processed, -, hsplice⟩ := Traced.bind_outcome_eq_error_iff.1 hend
          · exact ⟨h, imported, rfl, hprocess⟩
          · exact absurd hsplice (hspliceable processed)
      · rintro ⟨_, _, heq, hprocess⟩
        cases heq
        exact Traced.bind_outcome_eq_error_iff.2
          (Or.inr ⟨(), rfl, Traced.bind_outcome_eq_error_iff.2 (Or.inl hprocess)⟩)

/-- A reference has a text for shaders of a dialect: within some nesting depth, the shader that it
leads to comes to text that can be spliced in. -/
def Library.HasText (library : Library) (defs : List String) (dialect : Dialect)
    (ref : ImportRef) : Prop :=
  ∃ depth text, (spliceRef library dialect (expand library defs depth) ref).outcome = .ok text

/-- What has a text comes to one within every depth that is large enough, and meets any other. -/
lemma Library.HasText.endless_or_ok (h : library.HasText defs dialect ref) (depth : ℕ) :
    (spliceRef library dialect (expand library defs depth) ref).Endless ∨
      ∃ text, (spliceRef library dialect (expand library defs depth) ref).outcome = .ok text := by
  obtain ⟨enough, text, htext⟩ := h
  by_cases hend : (spliceRef library dialect (expand library defs depth) ref).Endless
  · exact Or.inl hend
  · -- both agree with the larger of the two depths
    have hdepth := spliceRef_congr
      (fun _ => expand_of_le (Nat.le_max_left depth enough)) hend
    have henough := spliceRef_congr
      (fun _ => expand_of_le (Nat.le_max_right depth enough))
      (Traced.not_endless_of_ok htext)
    exact Or.inr ⟨text, by rw [← hdepth, henough, htext]⟩

/-- The expansion of a shader reaches an import of another one: all lines before it can be
passed. -/
inductive Library.Enters (library : Library) (defs : List String) : Shader → Shader → Prop where
  | intro {shader imported : Shader} {dialect : Dialect} {content : String}
      {front rest : List Line} {line : Line} {ref : ImportRef} {h : Handle}
      (hsource : shader.source = .text dialect content)
      (hlines : lines content.toList = front ++ line :: rest)
      (hfront : Passable (library.HasText defs dialect) 0 front)
      (hline : Directive.ofLine? line = some (.splice ref))
      (hresolve : library.resolve? ref = some (h, imported)) : Enters library defs shader imported

/-- What is reached is imported. -/
lemma Library.Enters.imports {shader imported : Shader} (h : library.Enters defs shader imported) :
    library.Imports shader imported := by
  obtain ⟨hsource, hlines, -, hline, hresolve⟩ := h
  exact ⟨_, (mem_imports_iff hsource).2 ⟨_, by simp [hlines], hline⟩, _, hresolve⟩

/-- A shader meets a bound if it reaches another one that meets the bound that is left. -/
lemma expand_endless_of_enters {depth : ℕ} {shader imported : Shader}
    (hstep : library.Enters defs shader imported)
    (hend : (expand library defs depth imported).Endless) :
    (expand library defs (depth + 1) shader).Endless := by
  obtain ⟨hsource, hlines, hfront, hline, hresolve⟩ := hstep
  rw [expand_text hsource, hlines]
  refine Traced.map_outcome_eq_error_iff.2 ?_
  refine expandLines_endless ?_ hline (spliceRef_endless_iff.2 ⟨_, _, hresolve, hend⟩)
  exact hfront.imp fun ref href => href.endless_or_ok depth

/-- A shader that meets a bound reaches one that meets the bound that is left. -/
lemma exists_enters_of_endless {depth : ℕ} {shader : Shader}
    (h : (expand library defs (depth + 1) shader).Endless) :
    ∃ imported, library.Enters defs shader imported ∧
      (expand library defs depth imported).Endless := by
  rw [expand] at h
  split at h
  · split at h <;> cases h
  · next dialect content hsource =>
      obtain ⟨front, line, rest, ref, hlines, hline, href, hfront⟩ :=
        exists_endless_import (Traced.map_outcome_eq_error_iff.1 h)
      obtain ⟨g, imported, hresolve, himported⟩ := spliceRef_endless_iff.1 href
      have hpassable : Passable (library.HasText defs dialect) 0 front :=
        hfront.imp fun ref' htext => ⟨depth, htext⟩
      exact ⟨imported, .intro hsource hlines hpassable hline hresolve, himported⟩

end

/-! ### Shaders that lead to themselves -/

/-- By imports that are reached a shader leads to one that leads to itself. -/
def Library.Circles (library : Library) (defs : List String) (shader : Shader) : Prop :=
  ∃ s, ReflTransGen (library.Enters defs) shader s ∧ TransGen (library.Enters defs) s s

section

variable {library : Library} {defs : List String} {shader : Shader}

/-- What circles reaches something that circles. -/
lemma Library.Circles.exists_enters (h : library.Circles defs shader) :
    ∃ imported, library.Enters defs shader imported ∧ library.Circles defs imported := by
  obtain ⟨s, hpath, hcycle⟩ := h
  obtain rfl | ⟨imported, hstep, hrest⟩ := hpath.cases_head
  · obtain ⟨imported, hstep, hback⟩ := TransGen.head'_iff.1 hcycle
    exact ⟨imported, hstep, shader, hback, hcycle⟩
  · exact ⟨imported, hstep, s, hrest, hcycle⟩

/-- What circles meets every bound. -/
lemma Library.Circles.endless (h : library.Circles defs shader) (depth : ℕ) :
    (expand library defs depth shader).Endless := by
  induction depth generalizing shader with
  | zero => rfl
  | succ depth ih =>
      obtain ⟨imported, hstep, himported⟩ := h.exists_enters
      exact expand_endless_of_enters hstep (ih himported)

/-- What circles is on the way to a cycle of imports. -/
lemma Library.Circles.exists_cycle (h : library.Circles defs shader) :
    ∃ s, ReflTransGen library.Imports shader s ∧ TransGen library.Imports s s := by
  obtain ⟨s, hpath, hcycle⟩ := h
  exact ⟨s, ReflTransGen.mono (fun _ _ => Library.Enters.imports) _ _ hpath,
    TransGen.mono (fun _ _ => Library.Enters.imports) _ _ hcycle⟩

/-- One level more than there are stored shaders is met exactly by what circles. -/
lemma endless_iff_circles :
    (expand library defs (library.shaders.size + 1) shader).Endless ↔
      library.Circles defs shader := by
  constructor
  · intro hend
    by_contra hcircles
    refine library.acyclic_induction (R := library.Enters defs)
      (P := fun depth s => ¬ (expand library defs depth s).Endless) ?_ ?_ ?_ hend
    · exact fun s t hstep => hstep.imports.stored
    · exact fun s hpath hcycle => hcircles ⟨s, hpath, hcycle⟩
    · intro depth s _ hbelow hends
      obtain ⟨imported, hstep, himported⟩ := exists_enters_of_endless hends
      exact hbelow imported hstep himported
  · exact fun h => h.endless _

end

/-- **Nesting without end.** One level more than there are stored shaders decides what becomes of a
shader: under every larger bound it comes to the same. It meets this bound exactly if imports that
are reached before any error lead round in a cycle, and then it meets every bound. -/
theorem expand_outcome_stable (library : Library) (defs : List String) (shader : Shader) :
    (∀ depth, library.shaders.size + 1 ≤ depth →
      (expand library defs depth shader).outcome =
        (expand library defs (library.shaders.size + 1) shader).outcome) ∧
    ((expand library defs (library.shaders.size + 1) shader).Endless ↔
      library.Circles defs shader) ∧
    (library.Circles defs shader →
      (∀ depth, (expand library defs depth shader).Endless) ∧
        ∃ s, ReflTransGen library.Imports shader s ∧ TransGen library.Imports s s) := by
  refine ⟨fun depth hdepth => ?_, endless_iff_circles, fun h => ⟨h.endless, h.exists_cycle⟩⟩
  by_cases hend : (expand library defs (library.shaders.size + 1) shader).Endless
  · have hdeep := (endless_iff_circles.1 hend).endless depth
    exact hdeep.trans hend.symm
  · rw [expand_of_le hdepth hend]

/-- Two stored shaders that import one another, the second one in a block. -/
def mutualImports : Library where
  shaders := .ofList [(⟨0⟩, ⟨.text .wgsl "a\n#import two", none⟩),
    (⟨1⟩, ⟨.text .wgsl "#ifdef A\n#import one\n#endif", none⟩)]
  imports := .ofList [(.custom "one", ⟨0⟩), (.custom "two", ⟨1⟩)]

/-- To import one of them meets every bound, also where the block is not kept; an error in a line
before the import is met first. -/
theorem expand_outcome_mutual_imports :
    2 + 1 ≤ 9 ∧
    (expand mutualImports [] 9 ⟨.text .wgsl "#import one", none⟩).outcome = .error .endless ∧
    (∀ depth, (expand mutualImports [] depth ⟨.text .wgsl "#import one", none⟩).Endless) ∧
    (expand mutualImports [] 9 ⟨.text .wgsl "#endif\n#import one", none⟩).outcome =
      .error (.fault .tooManyEndifs) := by
  obtain ⟨hstable, hiff, hround⟩ :=
    expand_outcome_stable mutualImports [] ⟨.text .wgsl "#import one", none⟩
  have hend : (expand mutualImports [] 3 ⟨.text .wgsl "#import one", none⟩).Endless := rfl
  refine ⟨by decide, (hstable 9 (by decide)).trans hend, (hround (hiff.1 hend)).1, ?_⟩
  exact (expand_outcome_stable mutualImports [] ⟨.text .wgsl "#endif\n#import one", none⟩).1 9
    (by decide)

end ShaderPreprocessor
