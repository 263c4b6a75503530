/-
What the outcome of an expansion depends on: the shaders that references lead to, as far as they are
reached, and not the handles that these are stored under.

* `Library.shader?`: the shader that a reference leads to;
* `Library.AgreesOn`: two libraries lead to the same shaders by all references in a shader and in
  all that it imports;
* `expandLines_outcome_congr`, `spliceRef_outcome_congr`: outcomes are the same if those of the
  imports are;
* `expand_outcome_congr`, `preprocess_outcome_congr`: what a shader comes to in libraries that agree
  on it.
-/
import ShaderPreprocessor.Proofs.Expansion.Cycles

namespace ShaderPreprocessor

open Text Relation

/-! ### Outcomes without events -/

namespace Traced

variable {κ ε α β : Type}

/-- The outcome of two steps goes by the outcomes of both. -/
lemma bind_outcome_congr {x y : Traced κ ε α} {f g : α → Traced κ ε β}
    (hxy : x.outcome = y.outcome)
    (hfg : ∀ a, x.outcome = .ok a → (f a).outcome = (g a).outcome) :
    (x.bind f).outcome = (y.bind g).outcome := by
  obtain ⟨events, e | a⟩ := x <;> obtain ⟨events', e' | a'⟩ := y <;> cases hxy
  · rfl
  · exact hfg _ rfl

lemma map_outcome_congr {x y : Traced κ ε α} (f : α → β) (hxy : x.outcome = y.outcome) :
    (x.map f).outcome = (y.map f).outcome := by
  rw [map, map, hxy]

/-- After a step that succeeds the outcome is that of the next one. -/
lemma bind_outcome_of_ok {x : Traced κ ε α} {a : α} (h : x.outcome = .ok a)
    (f : α → Traced κ ε β) : (x.bind f).outcome = (f a).outcome := by
  obtain ⟨events, _ | _⟩ := x <;> cases h
  rfl

end Traced

/-! ### The lines of one text -/

/-- What lines come to goes by what the imports among them come to. -/
lemma expandLines_outcome_congr {splice splice' : ImportRef → Expanding (List Char)}
    {defs : List String} {scope : Scope} {ls : List Line}
    (hsplice : ∀ line ∈ ls, ∀ ref, Directive.ofLine? line = some (.splice ref) →
      (splice ref).outcome = (splice' ref).outcome) :
    (expandLines splice defs scope ls).outcome = (expandLines splice' defs scope ls).outcome := by
  induction ls generalizing scope with
  | nil => rfl
  | cons line ls ih =>
      rw [expandLines_cons, expandLines_cons]
      cases scope.next? defs line with
      | none => rfl
      | some scope' =>
          refine Traced.bind_outcome_congr ?_ fun text _ => Traced.map_outcome_congr _
            (ih fun l hl => hsplice l (List.mem_cons_of_mem _ hl))
          by_cases himport : ∃ ref, Directive.ofLine? line = some (.splice ref)
          · obtain ⟨ref, hline⟩ := himport
            rw [ownText_of_splice hline, ownText_of_splice hline]
            exact hsplice line List.mem_cons_self ref hline
          · rw [ownText_congr fun ref hline => absurd ⟨ref, hline⟩ himport]

/-! ### Libraries that agree -/

namespace Library

/-- The shader that a reference leads to. -/
def shader? (library : Library) (ref : ImportRef) : Option Shader :=
  (library.resolve? ref).map Prod.snd

/-- All references in a shader, and in all that it imports, lead to the same shaders in two
libraries. -/
def AgreesOn (library library' : Library) (shader : Shader) : Prop :=
  ∀ s, ReflTransGen library.Imports shader s → ∀ ref ∈ s.imports,
    library.shader? ref = library'.shader? ref

/-- What agrees on a shader agrees on all that it imports. -/
lemma AgreesOn.imported {library library' : Library} {shader imported : Shader}
    (h : library.AgreesOn library' shader) (himports : library.Imports shader imported) :
    library.AgreesOn library' imported :=
  fun s hpath => h s (.head himports hpath)

end Library

section

variable {library library' : Library} {defs : List String} {dialect : Dialect} {ref : ImportRef}

/-- What an import comes to goes by the shader that it leads to and what becomes of that. -/
lemma spliceRef_outcome_congr {process process' : Shader → Expanding Processed}
    (hshader : library.shader? ref = library'.shader? ref)
    (hprocess : ∀ h shader, library.resolve? ref = some (h, shader) →
      (process shader).outcome = (process' shader).outcome) :
    (spliceRef library dialect process ref).outcome =
      (spliceRef library' dialect process' ref).outcome := by
  rw [Library.shader?, Library.shader?] at hshader
  rw [spliceRef, spliceRef]
  cases hresolve : library.resolve? ref with
  | none =>
      rw [hresolve, Option.map_none, eq_comm, Option.map_eq_none_iff] at hshader
      rw [hshader]
  | some found =>
      obtain ⟨h, shader⟩ := found
      rw [hresolve, Option.map_some, eq_comm, Option.map_eq_some_iff] at hshader
      obtain ⟨⟨h', shader'⟩, hresolve', rfl⟩ := hshader
      rw [hresolve']
      refine Traced.bind_outcome_congr rfl fun _ _ => ?_
      exact Traced.bind_outcome_congr (hprocess h _ hresolve) fun _ _ => rfl

/-- A shader comes to the same at every depth in libraries that agree on it. -/
lemma expand_outcome_congr {depth : ℕ} {shader : Shader} (h : library.AgreesOn library' shader) :
    (expand library defs depth shader).outcome = (expand library' defs depth shader).outcome := by
  induction depth generalizing shader with
  | zero => rfl
  | succ depth ih =>
      cases hsource : shader.source with
      | spirv data => rw [expand_module hsource, expand_module hsource]
      | text dialect content =>
          rw [expand_text hsource, expand_text hsource]
          refine Traced.map_outcome_congr _
            (expandLines_outcome_congr fun line hline ref href => ?_)
          have hmem : ref ∈ shader.imports := (mem_imports_iff hsource).2 ⟨line, hline, href⟩
          refine spliceRef_outcome_congr (h shader .refl ref hmem) fun g imported hresolve => ?_
          exact ih (h.imported ⟨ref, hmem, g, hresolve⟩)

/-- Every bound that is large enough decides what becomes of a shader. -/
lemma expand_outcome_eq_preprocess {depth : ℕ} (hdepth : library.depthBound ≤ depth)
    (defs : List String) (shader : Shader) :
    (expand library defs depth shader).outcome = (library.preprocess defs shader).outcome := by
  by_cases hend : (library.preprocess defs shader).Endless
  · have hdeep := (endless_iff_circles.1 hend).endless depth
    exact hdeep.trans hend.symm
  · rw [expand_of_le hdepth hend]
    rfl

/-- A shader is preprocessed to the same result, or fails for the same reason, in libraries that
agree on it. -/
lemma preprocess_outcome_congr {shader : Shader} (h : library.AgreesOn library' shader) :
    (library.preprocess defs shader).outcome = (library'.preprocess defs shader).outcome := by
  -- both are decided by a bound that is large enough for both
  have hleft := expand_outcome_eq_preprocess
    (Nat.le_max_left library.depthBound library'.depthBound) defs shader
  have hright := expand_outcome_eq_preprocess
    (Nat.le_max_right library.depthBound library'.depthBound) defs shader
  rw [← hleft, ← hright, expand_outcome_congr h]

end

end ShaderPreprocessor
