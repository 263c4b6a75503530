/-
Runs of lines that are passed in the middle of an expansion.

* `passLines`: the text that a run of lines comes to and the scope that it leads to. It is at fault
  only at one of its lines, and asks nothing of the end;
* `expandLines_append`: to expand lines is to pass the first of them and to expand the others from
  the scope that these lead to. `expandLines_eq_passLines`: at the end of a text one question is
  left, whether a block is still open;
* `exists_passLines_ok_iff`: lines are passed exactly if they are passable from their depth;
* `Opened.pass`: the scope that lines lead to is that of the blocks that are open after them.
-/
import ShaderPreprocessor.Proofs.Expansion.Activity

namespace ShaderPreprocessor

open Text

/-! ### Passing lines -/

/-- The text of a run of lines and the scope after them, from a scope on. -/
def passLines (splice : ImportRef → Expanding (List Char)) (defs : List String) :
    Scope → List Line → Expanding (List Char × Scope)
  | scope, [] => .pure ([], scope)
  | scope, line :: lines =>
    match scope.next? defs line with
    | none => .fail (.fault .tooManyEndifs)
    | some scope' => (ownText splice scope line).bind fun text =>
        (passLines splice defs scope' lines).map fun passed => (text ++ passed.1, passed.2)

variable {splice : ImportRef → Expanding (List Char)} {defs : List String} {scope : Scope}

/-- Lines with more lines behind them are passed first, and the others are expanded from the scope
that they lead to. -/
lemma expandLines_append (front rest : List Line) :
    expandLines splice defs scope (front ++ rest) =
      (passLines splice defs scope front).bind fun passed =>
        (expandLines splice defs passed.2 rest).map (passed.1 ++ ·) := by
  induction front generalizing scope with
  | nil =>
      rw [passLines, Traced.pure_bind, List.nil_append, Traced.map_eq_bind]
      exact (Traced.bind_pure _).symm
  | cons line front ih =>
      rw [List.cons_append, expandLines_cons, passLines]
      cases scope.next? defs line with
      | none => rfl
      | some scope' =>
          dsimp only
          rw [Traced.bind_assoc]
          congr 1
          funext text
          rw [ih, Traced.map_eq_bind, Traced.bind_assoc, Traced.map_eq_bind, Traced.bind_assoc]
          congr 1
          funext passed
          simp only [Traced.map_eq_bind, Traced.bind_assoc, Traced.pure_bind, List.append_assoc]

/-- A text is expanded by passing its lines, if no block is open after them. -/
lemma expandLines_eq_passLines (ls : List Line) :
    expandLines splice defs scope ls = (passLines splice defs scope ls).bind fun passed =>
      if passed.2.outer = [] then .pure passed.1 else .fail (.fault .notEnoughEndifs) := by
  conv_lhs => rw [← List.append_nil ls, expandLines_append]
  congr 1
  funext passed
  rw [expandLines]
  split
  · simp [Traced.map, Traced.pure, Except.map]
  · rfl

/-- A run of lines is passed line by line. -/
lemma passLines_cons_eq_ok_iff {line : Line} {ls : List Line} {passed : List Char × Scope} :
    (passLines splice defs scope (line :: ls)).outcome = .ok passed ↔
      ∃ next text rest, scope.next? defs line = some next ∧
        (ownText splice scope line).outcome = .ok text ∧
          (passLines splice defs next ls).outcome = .ok (rest, passed.2) ∧
            passed.1 = text ++ rest := by
  obtain ⟨all, last⟩ := passed
  rw [passLines]
  cases scope.next? defs line with
  | none => simp [Traced.fail]
  | some scope' =>
      simp only [Traced.bind_outcome_eq_ok_iff, Traced.map_outcome_eq_ok_iff, Prod.exists,
        Prod.mk.injEq, Option.some.injEq]
      constructor
      · rintro ⟨text, htext, rest, _, hrest, rfl, rfl⟩
        exact ⟨_, text, rest, rfl, htext, hrest, rfl⟩
      · rintro ⟨_, text, rest, rfl, htext, hrest, rfl⟩
        exact ⟨text, htext, rest, last, hrest, rfl, rfl⟩

/-- Lines can be passed from a scope exactly if they are passable from its depth. -/
lemma exists_passLines_ok_iff {ls : List Line} :
    (∃ passed, (passLines splice defs scope ls).outcome = .ok passed) ↔
      Passable (fun ref => ∃ text, (splice ref).outcome = .ok text) scope.outer.length ls := by
  induction ls generalizing scope with
  | nil =>
      rw [passable_nil]
      exact ⟨fun _ => Int.natCast_nonneg _, fun _ => ⟨_, rfl⟩⟩
  | cons line ls ih =>
      rw [passable_cons]
      constructor
      · rintro ⟨passed, hpassed⟩
        obtain ⟨next, text, rest, hnext, htext, hrest, -⟩ := passLines_cons_eq_ok_iff.1 hpassed
        refine ⟨⟨Int.natCast_nonneg _, exists_ownText_ok_iff.1 ⟨text, htext⟩⟩, ?_⟩
        rw [← Scope.length_outer_next? hnext]
        exact ih.1 ⟨_, hrest⟩
      · rintro ⟨⟨-, himport⟩, hrest⟩
        obtain ⟨next, hnext⟩ := Scope.exists_next? defs hrest.nonneg
        obtain ⟨text, htext⟩ := exists_ownText_ok_iff.2 himport
        rw [← Scope.length_outer_next? hnext] at hrest
        obtain ⟨⟨rest, last⟩, hpassed⟩ := ih.2 hrest
        exact ⟨(text ++ rest, last),
          passLines_cons_eq_ok_iff.2 ⟨next, text, rest, hnext, htext, hpassed, rfl⟩⟩

/-- Lines change the number of open blocks by their nesting. -/
lemma length_outer_of_passLines {ls : List Line} {passed : List Char × Scope}
    (h : (passLines splice defs scope ls).outcome = .ok passed) :
    (passed.2.outer.length : ℤ) = scope.outer.length + nesting ls := by
  induction ls generalizing scope passed with
  | nil =>
      cases h
      simp
  | cons line ls ih =>
      obtain ⟨next, text, rest, hnext, -, hrest, -⟩ := passLines_cons_eq_ok_iff.1 h
      rw [ih hrest, Scope.length_outer_next? hnext, nesting_cons, add_assoc]

/-- The scope that lines lead to is that of the blocks that are open after them. -/
lemma Opened.pass {before ls : List Line} {passed : List Char × Scope}
    (hscope : Opened defs before scope)
    (h : (passLines splice defs scope ls).outcome = .ok passed) :
    Opened defs (before ++ ls) passed.2 := by
  induction ls generalizing before scope passed with
  | nil =>
      cases h
      rwa [List.append_nil]
  | cons line ls ih =>
      obtain ⟨next, text, rest, hnext, -, hrest, -⟩ := passLines_cons_eq_ok_iff.1 h
      have hafter := ih (hscope.next hnext) hrest
      rwa [List.append_cons]

/-- A text that opens no block is in the scope of the text as a whole again if it turns it over an
even number of times. -/
lemma Opened.eq_root {before : List Line} (h : Opened defs before scope) (houter : scope.outer = [])
    (heven : Even (elses before)) : scope = .root := by
  cases h with
  | root => rw [Scope.root, decide_eq_true heven]
  | block => cases houter

end ShaderPreprocessor
