/-
The scopes of an expansion against the blocks of its text.

* `Opened`: the scope after given lines, in terms of the blocks that are open there: one entry for
  each, with what is kept around it and how often it was turned over;
* `Opened.append_balanced`, `Opened.turn`, `Opened.enter`, `Opened.leave`: what the kinds of lines
  do to such a scope, and `Opened.next`: every line leads from such a scope to such a scope;
* `Opened.active_iff`: the scope after given lines is active exactly if lines are kept there;
* `LineText`: what one line contributes to an expansion, and `lineText_of_ownText`: this is its own
  text;
* `expandLines_eq_ok`: a successful expansion is what its lines contribute, one after another.
-/
import ShaderPreprocessor.Proofs.Expansion.Steps

namespace ShaderPreprocessor

open Text

/-! ### Scopes and open blocks -/

/-- The scope after given lines. The last run of lines is balanced and stands in the text as a
whole or in a block that was opened after other lines. -/
inductive Opened (defs : List String) : List Line → Scope → Prop where
  | root {inside : List Line} (hinside : Balanced inside) :
      Opened defs inside ⟨decide (Even (elses inside)), []⟩
  | block {front inside : List Line} {first : Line} {scope : Scope} {condition : Bool}
      (hfront : Opened defs front scope) (hfirst : opening? defs first = some condition)
      (hinside : Balanced inside) :
      Opened defs (front ++ first :: inside)
        ⟨scope.active && (condition ^^ decide (Odd (elses inside))), scope.active :: scope.outer⟩

namespace Opened

variable {defs : List String} {before : List Line} {scope : Scope}

/-- Before any line the scope is that of the text as a whole. -/
lemma nil : Opened defs [] .root := root balanced_nil

/-- The lines before a scope close no block that they do not open. -/
lemma unclosed (h : Opened defs before scope) : Unclosed 0 before := by
  induction h with
  | root hinside => exact hinside.unclosed
  | @block front inside first scope condition _ hfirst hinside ih =>
      have hfront := ih.nesting_nonneg
      refine unclosed_append.2 ⟨ih, unclosed_cons.2 ⟨hfront, fun part hpart => ?_⟩⟩
      have := hinside.unclosed part hpart
      rw [level_of_opening hfirst]
      omega

/-- The scope is active exactly if lines are kept after the lines before it. -/
lemma active_iff (h : Opened defs before scope) :
    scope.active = true ↔ KeptAfter defs before := by
  induction h with
  | root hinside => rw [keptAfter_root hinside, decide_eq_true_iff]
  | block hfront hfirst hinside ih =>
      rw [keptAfter_block hfront.unclosed hfirst hinside, ← ih, Bool.and_eq_true]

/-- A balanced run without an `#else` of its own changes nothing. -/
lemma append_balanced {run : List Line} (h : Opened defs before scope) (hrun : Balanced run)
    (helses : ∀ ls, nesting ls = 0 → elses (ls ++ run) = elses ls) :
    Opened defs (before ++ run) scope := by
  cases h with
  | @root inside hinside =>
      rw [← helses before hinside.settled]
      exact root (hinside.append hrun)
  | @block front inside first scope condition hfront hfirst hinside =>
      rw [List.append_assoc, List.cons_append, ← helses inside hinside.settled]
      exact block hfront hfirst (hinside.append hrun)

/-- A line that is neither a conditional line nor an `#else` changes nothing. -/
lemma append_line {line : Line} (h : Opened defs before scope) (hlevel : level line = 0)
    (helse : Directive.ofLine? line ≠ some .otherwise) : Opened defs (before ++ [line]) scope :=
  h.append_balanced (balanced_singleton hlevel) fun ls _ => elses_snoc_of_ne ls helse

/-- An `#else` turns the scope over. -/
lemma turn {line : Line} (h : Opened defs before scope)
    (hline : Directive.ofLine? line = some .otherwise) :
    Opened defs (before ++ [line]) scope.turn := by
  have hbalanced : Balanced [line] := balanced_singleton (by simp [level, hline])
  have hcount : ∀ ls, nesting ls = 0 → elses (ls ++ [line]) = elses ls + 1 := fun ls hls => by
    rw [elses_snoc, if_pos ⟨hls, hline⟩]
  cases h with
  | @root inside hinside =>
      have hturn : Opened defs (before ++ [line]) _ := root (hinside.append hbalanced)
      simp only [hcount before hinside.settled, Nat.even_add_one, decide_not] at hturn
      exact hturn
  | @block front inside first scope condition hfront hfirst hinside =>
      have hturn := block hfront hfirst (hinside.append hbalanced)
      have hbool : ∀ a b c : Bool, (a && (b ^^ !c)) = (a && !(a && (b ^^ c))) := by decide
      simp only [hcount inside hinside.settled, Nat.odd_add_one, decide_not, hbool] at hturn
      rw [List.append_assoc, List.cons_append]
      exact hturn

/-- A line that opens a block leads into it. -/
lemma enter {line : Line} {condition : Bool} (h : Opened defs before scope)
    (hline : opening? defs line = some condition) :
    Opened defs (before ++ [line]) (scope.enter condition) := by
  simpa [Scope.enter] using block h hline balanced_nil

/-- An `#endif` leads back to the scope in which the block was opened. -/
lemma leave {line : Line} {outer : Scope} (h : Opened defs before scope)
    (hline : Directive.ofLine? line = some .endif) (hleave : scope.leave? = some outer) :
    Opened defs (before ++ [line]) outer := by
  have hlast : level line = -1 := by simp [level, hline]
  cases h with
  | root hinside => simp [Scope.leave?] at hleave
  | @block front inside first scope condition hfront hfirst hinside =>
      obtain rfl : scope = outer := by simpa [Scope.leave?] using hleave
      have hlevel := level_of_opening hfirst
      rw [List.append_assoc, List.cons_append]
      refine hfront.append_balanced (hinside.enclose hlevel hlast) fun ls hls => ?_
      exact elses_append_block hls.ge hlevel hinside hlast

/-- Every line leads from the scope after the lines before it to the scope after itself. -/
lemma next {line : Line} {scope' : Scope} (h : Opened defs before scope)
    (hnext : scope.next? defs line = some scope') : Opened defs (before ++ [line]) scope' := by
  unfold Scope.next? at hnext
  cases hline : Directive.ofLine? line with
  | none =>
      rw [hline] at hnext
      cases hnext
      exact h.append_line (by simp [level, hline]) (by simp [hline])
  | some directive =>
      rw [hline] at hnext
      cases directive with
      | ifdef name =>
          cases hnext
          exact h.enter (by simp [opening?, hline])
      | ifndef name =>
          cases hnext
          exact h.enter (by simp [opening?, hline])
      | otherwise =>
          cases hnext
          exact h.turn hline
      | endif => exact h.leave hline hnext
      | splice ref =>
          cases hnext
          exact h.append_line (by simp [level, hline]) (by simp [hline])

end Opened

/-! ### Lines and what they contribute -/

/-- What a line after given lines contributes to an expansion, if `meaning` tells what an import
stands for: an import line its text, whatever the blocks around it, a conditional line nothing, and
any other line itself and a line feed if lines are kept there. -/
def LineText (meaning : ImportRef → List Char → Prop) (defs : List String) (before : List Line)
    (line : Line) (part : List Char) : Prop :=
  match Directive.ofLine? line with
  | some (.splice ref) => meaning ref part
  | some _ => part = []
  | none => KeptAfter defs before ∧ part = line ++ ['\n'] ∨ ¬ KeptAfter defs before ∧ part = []

/-- The parts of a text, one for each line after given lines. -/
def LineTexts (meaning : ImportRef → List Char → Prop) (defs : List String) (before : List Line)
    (ls : List Line) (parts : List (List Char)) : Prop :=
  List.Forall₂ (fun p part => LineText meaning defs p.1 p.2 part) (placed before ls) parts

/-- What imports stand for matters only where it is asked. -/
lemma LineTexts.imp {meaning meaning' : ImportRef → List Char → Prop} {defs : List String}
    {before ls : List Line} {parts : List (List Char)}
    (h : LineTexts meaning defs before ls parts)
    (hmeaning : ∀ ref part, meaning ref part → meaning' ref part) :
    LineTexts meaning' defs before ls parts := by
  refine List.Forall₂.imp (fun p part hpart => ?_) h
  unfold LineText at hpart ⊢
  split at hpart <;> simp_all

/-- A line contributes the text that it has by itself in the scope after the lines before it. -/
lemma lineText_of_ownText {splice : ImportRef → Expanding (List Char)} {defs : List String}
    {before : List Line} {scope : Scope} {line : Line} {part : List Char}
    (hscope : Opened defs before scope)
    (h : (ownText splice scope line).outcome = .ok part) :
    LineText (fun ref part => (splice ref).outcome = .ok part) defs before line part := by
  unfold ownText at h
  unfold LineText
  cases hline : Directive.ofLine? line with
  | none =>
      rw [hline] at h
      cases h
      by_cases hactive : scope.active = true
      · exact Or.inl ⟨hscope.active_iff.1 hactive, if_pos hactive⟩
      · exact Or.inr ⟨mt hscope.active_iff.2 hactive, if_neg hactive⟩
  | some directive =>
      rw [hline] at h
      cases directive with
      | splice ref => exact h
      | _ =>
          cases h
          rfl

/-- A successful expansion is what its lines contribute, in order. -/
lemma expandLines_eq_ok {splice : ImportRef → Expanding (List Char)} {defs : List String}
    {before : List Line} {scope : Scope} {ls : List Line} {text : List Char}
    (hscope : Opened defs before scope)
    (h : (expandLines splice defs scope ls).outcome = .ok text) :
    ∃ parts, LineTexts (fun ref part => (splice ref).outcome = .ok part) defs before ls parts ∧
      text = parts.flatten := by
  induction ls generalizing before scope text with
  | nil =>
      refine ⟨[], List.Forall₂.nil, ?_⟩
      rw [expandLines] at h
      split at h <;> simp_all [Traced.pure, Traced.fail]
  | cons line ls ih =>
      rw [expandLines_cons] at h
      split at h
      · cases h
      · next scope' hnext =>
          obtain ⟨part, hpart, hrest⟩ := Traced.bind_outcome_eq_ok_iff.1 h
          obtain ⟨rest, htail, rfl⟩ := Traced.map_outcome_eq_ok_iff.1 hrest
          obtain ⟨parts, hparts, rfl⟩ := ih (hscope.next hnext) htail
          exact ⟨part :: parts, List.Forall₂.cons (lineText_of_ownText hscope hpart) hparts, rfl⟩

end ShaderPreprocessor
