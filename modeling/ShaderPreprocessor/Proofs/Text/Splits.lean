/-
Texts split at marks, and put together with marks between the parts.

* `eq_false_of_mem_splitOnP`, `not_mem_of_mem_splitOn`: no mark stands in a part;
* `intercalate_append_singleton`: one part more stands after a mark.
-/
import Mathlib.Tactic

namespace ShaderPreprocessor.Text

variable {text : List Char} {p : Char → Bool} {mark : Char}

/-- No character at which a text is split stands in a part. -/
lemma eq_false_of_mem_splitOnP : ∀ part ∈ text.splitOnP p, ∀ c ∈ part, p c = false := by
  induction text with
  | nil => simp
  | cons c text ih =>
      rw [List.splitOnP_cons_eq_if_modifyHead]
      split
      · exact List.forall_mem_cons.2 ⟨List.forall_mem_nil _, ih⟩
      · next hc =>
          obtain ⟨part, parts, hsplit⟩ :=
            List.exists_cons_of_ne_nil (List.splitOnP_ne_nil p text)
          rw [hsplit] at ih ⊢
          obtain ⟨hpart, hparts⟩ := List.forall_mem_cons.1 ih
          refine List.forall_mem_cons.2 ⟨List.forall_mem_cons.2 ⟨?_, hpart⟩, hparts⟩
          exact Bool.eq_false_iff.2 hc

/-- No mark stands in a part. -/
lemma not_mem_of_mem_splitOn {part : List Char} (h : part ∈ text.splitOn mark) : mark ∉ part := by
  rw [List.splitOn_eq_splitOnP] at h
  intro hmark
  simpa using eq_false_of_mem_splitOnP part h mark hmark

/-- One part more stands after a mark. -/
lemma intercalate_append_singleton {parts : List (List Char)} (hne : parts ≠ [])
    (part : List Char) :
    [mark].intercalate (parts ++ [part]) = [mark].intercalate parts ++ mark :: part := by
  induction parts with
  | nil => exact absurd rfl hne
  | cons first parts ih =>
      by_cases hlast : parts = []
      · subst hlast
        simp
      · rw [List.cons_append, List.intercalate_cons_of_ne_nil (by simp),
          List.intercalate_cons_of_ne_nil hlast, ih hlast, List.append_assoc, List.append_assoc,
          List.append_assoc]

end ShaderPreprocessor.Text
