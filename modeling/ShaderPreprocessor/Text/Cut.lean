/-
Texts cut at the last of some marks.

* `cutLast?`: the two sides of the last mark; `cutLast?_eq_some_iff` and `cutLast?_eq_none_iff`
  say which they are.
-/
namespace ShaderPreprocessor.Text

/-- The parts of a text before and after the last mark in it. -/
def cutLast? (mark : Char) : List Char → Option (List Char × List Char)
  | [] => none
  | c :: text =>
    match cutLast? mark text with
    | some (front, rest) => some (c :: front, rest)
    | none => if c = mark then some ([], text) else none

/-- Only a text without the mark is not cut. -/
theorem cutLast?_eq_none_iff {mark : Char} {text : List Char} :
    cutLast? mark text = none ↔ mark ∉ text := by
  induction text with
  | nil => simp [cutLast?]
  | cons c text ih =>
    cases h : cutLast? mark text with
    | none => simp [cutLast?, h, ih.1 h, eq_comm]
    | some parts =>
      have hmem : mark ∈ text := Decidable.byContradiction fun hnot => by
        rw [ih.2 hnot] at h
        cases h
      simp [cutLast?, h, hmem]

/-- The parts are what stands around a mark after which there is no other. -/
theorem cutLast?_eq_some_iff {mark : Char} {text front rest : List Char} :
    cutLast? mark text = some (front, rest) ↔ text = front ++ mark :: rest ∧ mark ∉ rest := by
  induction text generalizing front rest with
  | nil => simp [cutLast?]
  | cons c text ih =>
    cases h : cutLast? mark text with
    | none =>
      have hnot : mark ∉ text := cutLast?_eq_none_iff.1 h
      cases front with
      | nil =>
        by_cases hc : c = mark
        · simp only [cutLast?, h, hc, if_true, Option.some.injEq, Prod.mk.injEq, true_and,
            List.nil_append, List.cons.injEq]
          exact ⟨fun heq => ⟨heq, heq ▸ hnot⟩, fun heq => heq.1⟩
        · simp [cutLast?, h, hc]
      | cons d front =>
        have hne : text ≠ front ++ mark :: rest := fun heq => hnot (by simp [heq])
        by_cases hc : c = mark <;> simp [cutLast?, h, hc, hne]
    | some parts =>
      obtain ⟨front', rest'⟩ := parts
      obtain ⟨htext, hrest⟩ := ih.1 h
      cases front with
      | nil =>
        simp only [cutLast?, h, List.nil_append, Option.some.injEq, Prod.mk.injEq,
          List.cons_ne_nil, false_and, List.cons.injEq, false_iff, not_and, Decidable.not_not]
        rintro ⟨_, heq⟩
        simp [← heq, htext]
      | cons d front =>
        have hiff := @ih front rest
        rw [h] at hiff
        simp only [Option.some.injEq, Prod.mk.injEq] at hiff
        simp only [cutLast?, h, Option.some.injEq, Prod.mk.injEq, List.cons.injEq,
          List.cons_append, and_assoc, hiff]

end ShaderPreprocessor.Text
