/-
Texts as rows of ended lines.

* `newline_not_mem_of_mem_lines`: no line of a text holds a line feed, and `mem_of_mem_lines`: all
  other characters of a line stand in the text;
* `endLines`: lines, each ended by a line feed. `pieces_endLines` and `lines_endLines` cut such a
  text apart again;
* `Ended`: a text that is empty or ends in a line feed. A text that is cut after such a beginning is
  cut between its lines (`pieces_append`, `lines_append`);
* `dropReturns`: a text without the carriage returns that stand right before a line feed. For ended
  lines it drops one at the end of each (`dropReturns_endLines`), and nothing where no line ends in
  one (`dropReturns_endLines_eq_self`);
* `return_not_mem_unifyNewlines`, `unifyNewlines_eq_self`: unified line ends leave no carriage
  return, and change nothing where there is none.
-/
import Mathlib.Tactic
import ShaderPreprocessor.Text.Lines

namespace ShaderPreprocessor.Text

/-! ### The lines of a text -/

/-- A character put in front of pieces puts no line feed into one. -/
lemma newline_not_mem_addFront {c : Char} {ls : List Line} (h : ∀ line ∈ ls, '\n' ∉ line) :
    ∀ line ∈ addFront c ls, '\n' ∉ line := by
  unfold addFront
  split
  · exact List.forall_mem_cons.2 ⟨List.not_mem_nil, h⟩
  · next hc =>
      split
      · simpa [eq_comm] using hc
      · obtain ⟨hline, hrest⟩ := List.forall_mem_cons.1 h
        refine List.forall_mem_cons.2 ⟨?_, hrest⟩
        rw [List.mem_cons, not_or]
        exact ⟨Ne.symm hc, hline⟩

/-- No piece of a text holds a line feed. -/
lemma newline_not_mem_of_mem_pieces {text : List Char} :
    ∀ piece ∈ pieces text, '\n' ∉ piece := by
  induction text with
  | nil => simp
  | cons c text ih => exact newline_not_mem_addFront ih

/-- A line without a carriage return at its end is a beginning of it. -/
lemma dropReturn_isPrefix (line : Line) : dropReturn line <+: line := by
  fun_induction dropReturn line with
  | case1 => exact List.prefix_refl _
  | case2 => exact List.nil_prefix
  | case3 => exact List.prefix_refl _
  | case4 c d line ih => exact (List.prefix_cons_inj c).2 ih

/-- A line that does not end in a carriage return stays as it is. -/
lemma dropReturn_eq_self {line : Line} (h : line.getLast? ≠ some '\r') :
    dropReturn line = line := by
  fun_induction dropReturn line with
  | case1 => rfl
  | case2 => exact absurd rfl h
  | case3 => rfl
  | case4 c d line ih => rw [ih (by simpa using h)]

/-- A carriage return at the end of a line is dropped. -/
lemma dropReturn_append_return (line : Line) : dropReturn (line ++ ['\r']) = line := by
  induction line with
  | nil => rfl
  | cons c line ih =>
      cases line with
      | nil => rfl
      | cons d line => exact congrArg (c :: ·) ih

/-- No line of a text holds a line feed. -/
lemma newline_not_mem_of_mem_lines {text : List Char} {line : Line} (h : line ∈ lines text) :
    '\n' ∉ line := by
  obtain ⟨piece, hpiece, rfl⟩ := List.mem_map.1 h
  exact fun hmem =>
    newline_not_mem_of_mem_pieces piece hpiece ((dropReturn_isPrefix piece).subset hmem)

/-- The characters of the pieces of a text stand in the text. -/
lemma mem_of_mem_pieces {text : List Char} {c : Char} :
    ∀ piece ∈ pieces text, c ∈ piece → c ∈ text := by
  induction text with
  | nil => simp
  | cons d text ih =>
      intro piece hpiece hc
      rw [pieces, List.foldr_cons, ← pieces, addFront.eq_def] at hpiece
      split at hpiece
      · obtain rfl | hpiece := List.mem_cons.1 hpiece
        · cases hc
        · exact List.mem_cons_of_mem _ (ih piece hpiece hc)
      · split at hpiece
        · rw [List.mem_singleton] at hpiece
          subst hpiece
          exact List.mem_cons.2 (.inl (List.mem_singleton.1 hc))
        · next first others heq =>
            rw [heq] at ih
            obtain rfl | hpiece := List.mem_cons.1 hpiece
            · obtain rfl | hc := List.mem_cons.1 hc
              · exact List.mem_cons_self
              · exact List.mem_cons_of_mem _ (ih first List.mem_cons_self hc)
            · exact List.mem_cons_of_mem _ (ih piece (List.mem_cons_of_mem _ hpiece) hc)

/-- The characters of the lines of a text stand in the text. -/
lemma mem_of_mem_lines {text : List Char} {line : Line} {c : Char} (hline : line ∈ lines text)
    (hc : c ∈ line) : c ∈ text := by
  obtain ⟨piece, hpiece, rfl⟩ := List.mem_map.1 hline
  exact mem_of_mem_pieces piece hpiece ((dropReturn_isPrefix piece).subset hc)

/-! ### Ended lines -/

/-- Lines, each ended by a line feed. -/
def endLines (lines : List Line) : List Char := lines.flatMap (· ++ ['\n'])

@[simp] lemma endLines_nil : endLines [] = [] := rfl

@[simp] lemma endLines_cons (line : Line) (ls : List Line) :
    endLines (line :: ls) = line ++ '\n' :: endLines ls := by
  simp [endLines]

@[simp] lemma endLines_append (ls ls' : List Line) :
    endLines (ls ++ ls') = endLines ls ++ endLines ls' := by
  simp [endLines]

/-- Ended lines are no text, or end in a line feed. -/
lemma endLines_eq_nil_or (ls : List Line) :
    endLines ls = [] ∨ (endLines ls).getLast? = some '\n' := by
  rcases List.eq_nil_or_concat ls with rfl | ⟨front, line, rfl⟩
  · exact Or.inl rfl
  · exact Or.inr (by simp)

/-- Ended lines are the pieces of their text. -/
lemma pieces_endLines {ls : List Line} (h : ∀ line ∈ ls, '\n' ∉ line) :
    pieces (endLines ls) = ls := by
  induction ls with
  | nil => rfl
  | cons line ls ih =>
      rw [endLines_cons, pieces_append_newline (h line List.mem_cons_self),
        ih fun l hl => h l (List.mem_cons_of_mem _ hl)]

/-- The lines of a text of ended lines are these without a carriage return at their ends. -/
lemma lines_endLines {ls : List Line} (h : ∀ line ∈ ls, '\n' ∉ line) :
    lines (endLines ls) = ls.map dropReturn := by
  rw [lines, pieces_endLines h]

/-! ### Texts that end where a line does -/

/-- A text that is empty or ends in a line feed. -/
def Ended (text : List Char) : Prop := text = [] ∨ text.getLast? = some '\n'

/-- What follows the first character of such a text is such a text. -/
lemma Ended.tail {c : Char} {text : List Char} (h : Ended (c :: text)) : Ended text := by
  obtain h | h := h
  · cases h
  · cases text with
    | nil => exact Or.inl rfl
    | cons d text =>
        rw [List.getLast?_cons_cons] at h
        exact Or.inr h

/-- A text that is not empty has a piece. -/
lemma pieces_cons_ne_nil (c : Char) (text : List Char) : pieces (c :: text) ≠ [] := by
  rw [pieces, List.foldr_cons, addFront.eq_def]
  split
  · exact List.cons_ne_nil _ _
  · split <;> exact List.cons_ne_nil _ _

/-- A character is put in front of pieces whatever pieces follow, if there is one for it to join. -/
lemma addFront_append {c : Char} {ls : List Line} (h : ls ≠ [] ∨ c = '\n') (ls' : List Line) :
    addFront c (ls ++ ls') = addFront c ls ++ ls' := by
  unfold addFront
  split
  · rfl
  · next hc =>
      obtain ⟨line, ls, rfl⟩ := List.exists_cons_of_ne_nil (h.resolve_right hc)
      rfl

/-- A text cut where a line ends is cut between its pieces. -/
lemma pieces_append {text : List Char} (h : Ended text) (more : List Char) :
    pieces (text ++ more) = pieces text ++ pieces more := by
  induction text with
  | nil => rfl
  | cons c text ih =>
      have hjoin : pieces text ≠ [] ∨ c = '\n' := by
        cases text with
        | nil => exact Or.inr (by simpa [Ended] using h)
        | cons d text => exact Or.inl (pieces_cons_ne_nil d text)
      calc pieces (c :: text ++ more) = addFront c (pieces (text ++ more)) := rfl
        _ = addFront c (pieces text ++ pieces more) := by rw [ih h.tail]
        _ = pieces (c :: text) ++ pieces more := addFront_append hjoin _

/-- A text cut where a line ends is cut between its lines. -/
lemma lines_append {text : List Char} (h : Ended text) (more : List Char) :
    lines (text ++ more) = lines text ++ lines more := by
  rw [lines, pieces_append h, List.map_append]
  rfl

/-! ### Carriage returns before line feeds -/

/-- A text without the carriage returns that stand right before a line feed. -/
def dropReturns : List Char → List Char
  | [] => []
  | '\r' :: '\n' :: text => '\n' :: dropReturns text
  | c :: text => c :: dropReturns text

/-- In front of a line feed one carriage return is dropped. -/
lemma dropReturns_append_newline {line : Line} (h : '\n' ∉ line) (text : List Char) :
    dropReturns (line ++ '\n' :: text) = dropReturn line ++ '\n' :: dropReturns text := by
  fun_induction dropReturn line with
  | case1 => rfl
  | case2 => rfl
  | case3 c hc => simp [dropReturns, hc]
  | case4 c d line ih =>
      rw [List.mem_cons, not_or] at h
      have hd : d ≠ '\n' := fun heq => h.2 (heq ▸ List.mem_cons_self)
      change dropReturns (c :: d :: (line ++ '\n' :: text)) =
        c :: (dropReturn (d :: line) ++ '\n' :: dropReturns text)
      rw [← ih h.2, List.cons_append, dropReturns]
      simp [hd]

/-- Of ended lines, each loses one carriage return at its end. -/
lemma dropReturns_endLines {ls : List Line} (h : ∀ line ∈ ls, '\n' ∉ line) :
    dropReturns (endLines ls) = endLines (ls.map dropReturn) := by
  induction ls with
  | nil => rfl
  | cons line ls ih =>
      rw [endLines_cons, dropReturns_append_newline (h line List.mem_cons_self),
        ih fun l hl => h l (List.mem_cons_of_mem _ hl), List.map_cons, endLines_cons]

/-- Ended lines of which none ends in a carriage return lose nothing. -/
lemma dropReturns_endLines_eq_self {ls : List Line} (h : ∀ line ∈ ls, '\n' ∉ line)
    (hends : ∀ line ∈ ls, line.getLast? ≠ some '\r') : dropReturns (endLines ls) = endLines ls := by
  rw [dropReturns_endLines h, List.map_congr_left fun line hl => dropReturn_eq_self (hends line hl),
    List.map_id']

/-! ### Unified line ends -/

/-- Unified line ends are line feeds alone. -/
lemma return_not_mem_unifyNewlines (text : List Char) : '\r' ∉ unifyNewlines text := by
  fun_induction unifyNewlines text with
  | case1 => exact List.not_mem_nil
  | case2 text ih =>
      rw [List.mem_cons, not_or]
      exact ⟨by decide, ih⟩
  | case3 c text _ ih =>
      rw [List.mem_cons, not_or]
      refine ⟨?_, ih⟩
      split
      · decide
      · next hc => exact fun heq => hc heq.symm

/-- Without carriage returns all line ends are line feeds alone. -/
lemma unifyNewlines_eq_self {text : List Char} (h : '\r' ∉ text) : unifyNewlines text = text := by
  fun_induction unifyNewlines text with
  | case1 => rfl
  | case2 => exact absurd List.mem_cons_self h
  | case3 c text _ ih =>
      rw [List.mem_cons, not_or] at h
      rw [if_neg fun heq => h.1 heq.symm, ih h.2]

end ShaderPreprocessor.Text
