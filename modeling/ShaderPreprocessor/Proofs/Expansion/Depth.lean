/-
How deep an expansion goes. The nesting depth is a bound on the imports that stand within one
another; a bound that is large enough makes no difference.

* `Traced.Endless`: a computation that meets the bound;
* `expandLines_congr`, `spliceRef_congr`: where the bound is not met it does not matter what would
  become of deeper imports;
* `expand_of_le`: an expansion that does not meet its bound is the same under any larger one.
-/
import ShaderPreprocessor.Proofs.Expansion.Steps

namespace ShaderPreprocessor

open Text

/-- An expansion that ends at its nesting bound. -/
def Traced.Endless {α : Type} (x : Expanding α) : Prop := x.outcome = .error .endless

/-- What comes to a value does not meet the bound. -/
lemma Traced.not_endless_of_ok {α : Type} {x : Expanding α} {a : α} (h : x.outcome = .ok a) :
    ¬ x.Endless := by
  intro hend
  rw [Endless, h] at hend
  cases hend

/-- If two ways to expand imports differ only where the first one meets its bound, so do two
expansions of the same lines. -/
lemma expandLines_congr {splice splice' : ImportRef → Expanding (List Char)} {defs : List String}
    {scope : Scope} {ls : List Line}
    (hsplice : ∀ ref, ¬ (splice ref).Endless → splice' ref = splice ref)
    (h : ¬ (expandLines splice defs scope ls).Endless) :
    expandLines splice' defs scope ls = expandLines splice defs scope ls := by
  induction ls generalizing scope with
  | nil => rfl
  | cons line ls ih =>
      rw [expandLines_cons] at h
      rw [expandLines_cons, expandLines_cons]
      cases hnext : scope.next? defs line with
      | none => rfl
      | some scope' =>
          rw [hnext] at h
          have hown : ownText splice' scope line = ownText splice scope line := by
            refine ownText_congr fun ref hline => hsplice ref fun hend => h ?_
            refine Traced.bind_outcome_eq_error_iff.2 (Or.inl ?_)
            rw [ownText_of_splice hline]
            exact hend
          dsimp only
          rw [hown]
          refine Traced.bind_congr fun text htext => ?_
          rw [ih fun hend => h (Traced.bind_outcome_eq_error_iff.2
            (Or.inr ⟨text, htext, Traced.map_outcome_eq_error_iff.2 hend⟩))]

/-- The same for one import, by what becomes of the shader that it leads to. -/
lemma spliceRef_congr {library : Library} {dialect : Dialect}
    {process process' : Shader → Expanding Processed} {ref : ImportRef}
    (hprocess : ∀ shader, ¬ (process shader).Endless → process' shader = process shader)
    (h : ¬ (spliceRef library dialect process ref).Endless) :
    spliceRef library dialect process' ref = spliceRef library dialect process ref := by
  unfold spliceRef at h ⊢
  split
  · rfl
  · next handle shader hresolve =>
      rw [hresolve] at h
      rw [hprocess shader fun he => h (Traced.bind_outcome_eq_error_iff.2
        (Or.inr ⟨(), rfl, Traced.bind_outcome_eq_error_iff.2 (Or.inl he)⟩))]

/-- One level more makes no difference to an expansion that does not meet its bound. -/
lemma expand_succ {library : Library} {defs : List String} {depth : ℕ} {shader : Shader}
    (h : ¬ (expand library defs depth shader).Endless) :
    expand library defs (depth + 1) shader = expand library defs depth shader := by
  induction depth generalizing shader with
  | zero => exact absurd rfl h
  | succ depth ih =>
      rw [expand] at h
      rw [expand, expand]
      split at h
      · rfl
      · next dialect content hsource =>
          rw [expandLines_congr (fun ref => spliceRef_congr fun _ => ih)
            fun he => h (Traced.map_outcome_eq_error_iff.2 he)]

/-- An expansion that does not meet its bound is the same under any larger one. -/
lemma expand_of_le {library : Library} {defs : List String} {depth depth' : ℕ} {shader : Shader}
    (hle : depth ≤ depth') (h : ¬ (expand library defs depth shader).Endless) :
    expand library defs depth' shader = expand library defs depth shader := by
  induction depth', hle using Nat.le_induction with
  | base => rfl
  | succ depth' _ ih => rw [expand_succ (ih.symm ▸ h), ih]

/-- An expansion that succeeds under one bound comes to the same under any larger one. -/
lemma expand_ok_of_le {library : Library} {defs : List String} {depth depth' : ℕ}
    {shader : Shader} {result : Processed} (hle : depth ≤ depth')
    (h : (expand library defs depth shader).outcome = .ok result) :
    (expand library defs depth' shader).outcome = .ok result := by
  rw [expand_of_le hle (Traced.not_endless_of_ok h), h]

end ShaderPreprocessor
