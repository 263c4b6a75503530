/-
Expansions one line at a time.

* `Scope.next?`: the scope after a line, if the line closes no block that is not open. How deep it
  is depends on the line alone (`Scope.length_outer_next?`, `Scope.next?_eq_none_iff`);
* `ownText`: what a line by itself comes to, which can fail only for an import (`ownText_of_splice`,
  `exists_ownText_eq_pure`);
* `expandLines_cons`: an expansion is the text of its first line, followed by the expansion of the
  others in the next scope;
* `Passable`: lines that an expansion gets through, if it is known which imports have a text.
-/
import ShaderPreprocessor.Proofs.Expansion.Blocks

namespace ShaderPreprocessor

open Text

/-! ### The next scope -/

namespace Scope

/-- The scope after a line, if the line closes no block that is not open. -/
def next? (defs : List String) (scope : Scope) (line : Line) : Option Scope :=
  match Directive.ofLine? line with
  | some (.ifdef name) => some (scope.enter (defs.contains name))
  | some (.ifndef name) => some (scope.enter (!defs.contains name))
  | some .otherwise => some scope.turn
  | some .endif => scope.leave?
  | _ => some scope

variable {defs : List String} {scope scope' : Scope} {line : Line}

/-- A line changes the number of open blocks by its level. -/
lemma length_outer_next? (h : scope.next? defs line = some scope') :
    (scope'.outer.length : ℤ) = scope.outer.length + level line := by
  unfold next? at h
  unfold level
  cases hline : Directive.ofLine? line with
  | none =>
      rw [hline] at h
      cases h
      simp
  | some directive =>
      rw [hline] at h
      cases directive with
      | endif =>
          obtain ⟨active, _ | ⟨around, outer⟩⟩ := scope
          · cases h
          · cases h
            simp
      | _ =>
          cases h
          simp [enter]

/-- There is no next scope exactly if the line closes a block that is not open. -/
lemma next?_eq_none_iff :
    scope.next? defs line = none ↔ (scope.outer.length : ℤ) + level line < 0 := by
  constructor
  · intro h
    unfold next? at h
    split at h
    · cases h
    · cases h
    · cases h
    · next hline =>
        obtain ⟨active, _ | ⟨around, outer⟩⟩ := scope
        · simp [level, hline]
        · cases h
    · cases h
  · intro h
    cases hnext : scope.next? defs line with
    | none => rfl
    | some scope' =>
        have := length_outer_next? hnext
        omega

/-- Where no block is closed that is not open there is a next scope. -/
lemma exists_next? (defs : List String) (h : 0 ≤ (scope.outer.length : ℤ) + level line) :
    ∃ scope', scope.next? defs line = some scope' := by
  cases hnext : scope.next? defs line with
  | none =>
      have := next?_eq_none_iff.1 hnext
      omega
  | some scope' => exact ⟨scope', rfl⟩

end Scope

/-! ### The text of one line -/

/-- What a line by itself comes to in a scope: an import line what its reference stands for, a
conditional line nothing, and any other line itself and a line feed if the scope is active. -/
def ownText (splice : ImportRef → Expanding (List Char)) (scope : Scope) (line : Line) :
    Expanding (List Char) :=
  match Directive.ofLine? line with
  | some (.splice ref) => splice ref
  | some _ => .pure []
  | none => .pure (if scope.active then line ++ ['\n'] else [])

variable {splice : ImportRef → Expanding (List Char)} {defs : List String} {scope : Scope}
  {line : Line}

lemma ownText_of_splice {ref : ImportRef} (h : Directive.ofLine? line = some (.splice ref)) :
    ownText splice scope line = splice ref := by
  rw [ownText, h]

/-- What imports stand for matters to a line only if it is one. -/
lemma ownText_congr {splice' : ImportRef → Expanding (List Char)}
    (h : ∀ ref, Directive.ofLine? line = some (.splice ref) → splice' ref = splice ref) :
    ownText splice' scope line = ownText splice scope line := by
  unfold ownText
  split
  · next ref hline => exact h ref hline
  · rfl
  · rfl

/-- A line that is no import has a text and tells of nothing. -/
lemma exists_ownText_eq_pure (splice : ImportRef → Expanding (List Char)) (scope : Scope)
    (h : ∀ ref, Directive.ofLine? line ≠ some (.splice ref)) :
    ∃ text, ownText splice scope line = .pure text := by
  unfold ownText
  split
  · next ref hline => exact absurd hline (h ref)
  · exact ⟨_, rfl⟩
  · exact ⟨_, rfl⟩

/-- A line by itself fails exactly as the import that it is. -/
lemma ownText_outcome_eq_error_iff {e : Stop} :
    (ownText splice scope line).outcome = .error e ↔
      ∃ ref, Directive.ofLine? line = some (.splice ref) ∧ (splice ref).outcome = .error e := by
  constructor
  · intro h
    by_cases hsplice : ∃ ref, Directive.ofLine? line = some (.splice ref)
    · obtain ⟨ref, hline⟩ := hsplice
      rw [ownText_of_splice hline] at h
      exact ⟨ref, hline, h⟩
    · obtain ⟨text, htext⟩ := exists_ownText_eq_pure splice scope
        fun ref hline => hsplice ⟨ref, hline⟩
      rw [htext] at h
      cases h
  · rintro ⟨ref, hline, href⟩
    rw [ownText_of_splice hline, href]

/-- A line by itself has a text exactly if the import has one that it may be. -/
lemma exists_ownText_ok_iff :
    (∃ text, (ownText splice scope line).outcome = .ok text) ↔
      ∀ ref, Directive.ofLine? line = some (.splice ref) →
        ∃ text, (splice ref).outcome = .ok text := by
  constructor
  · rintro ⟨text, htext⟩ ref hline
    rw [ownText_of_splice hline] at htext
    exact ⟨text, htext⟩
  · intro h
    by_cases hsplice : ∃ ref, Directive.ofLine? line = some (.splice ref)
    · obtain ⟨ref, hline⟩ := hsplice
      rw [ownText_of_splice hline]
      exact h ref hline
    · obtain ⟨text, htext⟩ := exists_ownText_eq_pure splice scope
        fun ref hline => hsplice ⟨ref, hline⟩
      exact ⟨text, by rw [htext]; rfl⟩

/-- An expansion is the text of its first line, followed by the expansion of the others in the next
scope. -/
lemma expandLines_cons (ls : List Line) :
    expandLines splice defs scope (line :: ls) =
      match scope.next? defs line with
      | none => .fail (.fault .tooManyEndifs)
      | some scope' => (ownText splice scope line).bind fun text =>
          (expandLines splice defs scope' ls).map (text ++ ·) := by
  have hsilent : ∀ x : Expanding (List Char), x = (Traced.pure []).bind fun text =>
      x.map (text ++ ·) := by
    rintro ⟨events, e | text⟩ <;> rfl
  rw [expandLines, Scope.next?, ownText]
  cases Directive.ofLine? line with
  | none =>
      dsimp only
      rw [Traced.pure_bind]
      congr 1
      funext text
      cases scope.active <;> simp
  | some directive =>
      cases directive with
      | ifdef name => exact hsilent _
      | ifndef name => exact hsilent _
      | otherwise => exact hsilent _
      | endif =>
          cases scope.leave? with
          | none => rfl
          | some outer => exact hsilent _
      | splice ref => rfl

/-! ### Lines that are passed -/

/-- Lines that can be passed from a depth of open blocks on: they close no block that is not open,
and every import among them has a text. -/
structure Passable (hasText : ImportRef → Prop) (depth : ℤ) (lines : List Line) : Prop where
  /-- Every import has a text. -/
  imports : ∀ line ∈ lines, ∀ ref, Directive.ofLine? line = some (.splice ref) → hasText ref
  /-- No block is closed that is not open. -/
  unclosed : Unclosed depth lines

variable {hasText hasText' : ImportRef → Prop} {depth : ℤ}

lemma passable_nil : Passable hasText depth [] ↔ 0 ≤ depth :=
  ⟨fun h => unclosed_nil.1 h.unclosed, fun h => ⟨by simp, unclosed_nil.2 h⟩⟩

/-- The depth that lines can be passed from is one. -/
lemma Passable.nonneg {ls : List Line} (h : Passable hasText depth ls) : 0 ≤ depth := by
  simpa using h.unclosed [] List.nil_prefix

/-- Lines can be passed if the first one can and the others can from there on. -/
lemma passable_cons {ls : List Line} :
    Passable hasText depth (line :: ls) ↔
      (0 ≤ depth ∧ ∀ ref, Directive.ofLine? line = some (.splice ref) → hasText ref) ∧
        Passable hasText (depth + level line) ls := by
  constructor
  · rintro ⟨himports, hunclosed⟩
    obtain ⟨hdepth, hrest⟩ := unclosed_cons.1 hunclosed
    refine ⟨⟨hdepth, himports line List.mem_cons_self⟩, ⟨fun l hl => ?_, hrest⟩⟩
    exact himports l (List.mem_cons_of_mem _ hl)
  · rintro ⟨⟨hdepth, hline⟩, himports, hunclosed⟩
    refine ⟨fun l hl => ?_, unclosed_cons.2 ⟨hdepth, hunclosed⟩⟩
    rcases List.mem_cons.1 hl with rfl | hl
    · exact hline
    · exact himports l hl

/-- More imports may have a text. -/
lemma Passable.imp {ls : List Line} (h : Passable hasText depth ls)
    (hmore : ∀ ref, hasText ref → hasText' ref) : Passable hasText' depth ls :=
  ⟨fun line hline ref href => hmore ref (h.imports line hline ref href), h.unclosed⟩

end ShaderPreprocessor
