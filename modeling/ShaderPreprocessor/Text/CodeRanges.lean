/-
Sets of characters written as ascending ranges of code points.

* `CodeRanges.covers`: membership;
* `CodeRanges.covers_cons`: one range more;
* `CodeRanges.exists_of_covers`: a covered code point lies in one of the ranges.
-/
namespace ShaderPreprocessor.Text

/-- Ranges of code points, both ends included, in ascending order. -/
abbrev CodeRanges := List (Nat × Nat)

namespace CodeRanges

/-- Whether a code point lies in one of the ranges. The search ends at the first range that
starts beyond it. -/
def covers : CodeRanges → Nat → Bool
  | [], _ => false
  | (low, high) :: ranges, n => low ≤ n && (n ≤ high || covers ranges n)

/-- Nothing lies in no ranges. -/
@[simp] theorem covers_nil (n : Nat) : covers [] n = false := rfl

/-- One range more covers what lies in it, and otherwise what the rest covers beyond its start. -/
theorem covers_cons (low high n : Nat) (ranges : CodeRanges) :
    covers ((low, high) :: ranges) n = (low ≤ n && (n ≤ high || covers ranges n)) := rfl

/-- A covered code point lies between the ends of one of the ranges. -/
theorem exists_of_covers {ranges : CodeRanges} {n : Nat} (h : covers ranges n = true) :
    ∃ range ∈ ranges, range.1 ≤ n ∧ n ≤ range.2 := by
  induction ranges with
  | nil => simp at h
  | cons range ranges ih =>
    obtain ⟨low, high⟩ := range
    simp only [covers_cons, Bool.and_eq_true, Bool.or_eq_true, decide_eq_true_eq] at h
    rcases h with ⟨hlow, hhigh | hrest⟩
    · exact ⟨(low, high), by simp, hlow, hhigh⟩
    · obtain ⟨range, hmem, hin⟩ := ih hrest
      exact ⟨range, by simp [hmem], hin⟩

end CodeRanges

end ShaderPreprocessor.Text
