/-
What does not depend on the defined names.

* `Traced.Alike`: two computations tell of the same events, and both come to a value or both fail;
* `Library.Restated`: the two reasons to fail are the same, but for a compiled module that is
  imported: as long as no name is defined it is processed and does not fit, and with names it is
  refused at once;
* `expandLines_alike`: the lines of one text take the same course under all names. Scopes are
  equally deep at each line, whatever is kept in them;
* `expand_alike`: so do shaders and all that they import;
* `preprocess_failure_of_defs`: whether preprocessing fails, why, and what it splices in on the way.
-/
import ShaderPreprocessor.Proofs.Expansion.Imports
import ShaderPreprocessor.Proofs.Expansion.Steps

namespace ShaderPreprocessor

open Text

/-! ### Computations that take the same course -/

namespace Traced

variable {κ ε α β γ δ : Type}

/-- Two computations tell of the same events, and come to values that are related or fail for
reasons that are related. -/
inductive Alike (E : ε → ε → Prop) (R : α → β → Prop) : Traced κ ε α → Traced κ ε β → Prop where
  /-- Both come to a value. -/
  | ok {events : List κ} {a : α} {b : β} (hvalue : R a b) :
      Alike E R ⟨events, .ok a⟩ ⟨events, .ok b⟩
  /-- Both fail. -/
  | error {events : List κ} {e e' : ε} (hreason : E e e') :
      Alike E R ⟨events, .error e⟩ ⟨events, .error e'⟩

namespace Alike

variable {E : ε → ε → Prop} {R : α → β → Prop} {S : γ → δ → Prop} {x : Traced κ ε α}
  {y : Traced κ ε β}

/-- Further steps that take the same course from related values on do so after the first ones. -/
lemma bind (h : Alike E R x y) {f : α → Traced κ ε γ} {g : β → Traced κ ε δ}
    (hrest : ∀ a b, R a b → Alike E S (f a) (g b)) : Alike E S (x.bind f) (y.bind g) := by
  cases h with
  | @ok events a b hvalue =>
      have hlast := hrest a b hvalue
      simp only [Traced.bind]
      generalize f a = z, g b = w at hlast ⊢
      cases hlast with
      | ok hvalue' => exact .ok hvalue'
      | error hreason => exact .error hreason
  | error hreason => exact .error hreason

/-- Values may be changed as long as they stay related. -/
lemma map (h : Alike E R x y) {f : α → γ} {g : β → δ} (hvalues : ∀ a b, R a b → S (f a) (g b)) :
    Alike E S (x.map f) (y.map g) := by
  cases h with
  | ok hvalue => exact .ok (hvalues _ _ hvalue)
  | error hreason => exact .error hreason

lemma events_eq (h : Alike E R x y) : x.events = y.events := by
  cases h <;> rfl

/-- One of them comes to a value if the other one does. -/
lemma exists_ok_iff (h : Alike E R x y) :
    (∃ a, x.outcome = .ok a) ↔ ∃ b, y.outcome = .ok b := by
  cases h with
  | ok => exact ⟨fun _ => ⟨_, rfl⟩, fun _ => ⟨_, rfl⟩⟩
  | error => constructor <;> rintro ⟨_, hok⟩ <;> cases hok

/-- A failure of the first is met by one of the second. -/
lemma exists_error_right (h : Alike E R x y) {e : ε} (he : x.outcome = .error e) :
    ∃ e', y.outcome = .error e' ∧ E e e' := by
  cases h with
  | ok => cases he
  | error hreason =>
      cases he
      exact ⟨_, rfl, hreason⟩

/-- A failure of the second is met by one of the first. -/
lemma exists_error_left (h : Alike E R x y) {e' : ε} (he : y.outcome = .error e') :
    ∃ e, x.outcome = .error e ∧ E e e' := by
  cases h with
  | ok => cases he
  | error hreason =>
      cases he
      exact ⟨_, rfl, hreason⟩

/-- If reasons are related only to themselves, both fail for the same reason. -/
lemma outcome_eq_error_iff (h : Alike E R x y) (hsame : ∀ e e', E e e' → e = e') {e : ε} :
    x.outcome = .error e ↔ y.outcome = .error e := by
  constructor
  · intro he
    obtain ⟨e', he', hreason⟩ := h.exists_error_right he
    rw [hsame e e' hreason, he']
  · intro he
    obtain ⟨e', he', hreason⟩ := h.exists_error_left he
    rw [← hsame e' e hreason, he']

end Alike

end Traced

/-! ### Compiled modules that are imported -/

namespace Library

/-- A reference leads to a compiled module. -/
def LeadsToModule (library : Library) (ref : ImportRef) : Prop :=
  ∃ h shader data, library.resolve? ref = some (h, shader) ∧ shader.source = .spirv data

/-- Why a text fails under one set of names and under another one, if names are defined in the
second wherever they are in the first. -/
inductive Restated (library : Library) (defs defs' : List String) : Stop → Stop → Prop where
  /-- For the same reason, other than a compiled module that does not fit. -/
  | same {stop : Stop} (hfits : ∀ ref, stop = .fault (.mismatched ref) →
        library.LeadsToModule ref → defs = [] → defs' = [])
      (hnames : stop = .fault .unsupportedDefs → defs ≠ []) : Restated library defs defs' stop stop
  /-- For a compiled module, which does not fit or is refused because names are defined. -/
  | refused {ref : ImportRef} (hmodule : library.LeadsToModule ref) (hnone : defs = [])
      (hsome : defs' ≠ []) :
      Restated library defs defs' (.fault (.mismatched ref)) (.fault .unsupportedDefs)

/-- If names are defined in both cases or in none, texts fail for the same reason. -/
lemma Restated.eq {library : Library} {defs defs' : List String} {stop stop' : Stop}
    (h : library.Restated defs defs' stop stop') (hboth : defs = [] → defs' = []) :
    stop = stop' := by
  cases h with
  | same => rfl
  | refused _ hnone hsome => exact absurd (hboth hnone) hsome

end Library

section

variable {library : Library} {defs defs' : List String}

/-- The lines of a text take the same course from scopes that are equally deep, if the imports among
them do. -/
lemma expandLines_alike {splice splice' : ImportRef → Expanding (List Char)}
    (hsplice : ∀ ref, Traced.Alike (library.Restated defs defs') (fun _ _ => True) (splice ref)
      (splice' ref)) {scope scope' : Scope}
    (hdepth : scope.outer.length = scope'.outer.length) (ls : List Line) :
    Traced.Alike (library.Restated defs defs') (fun _ _ => True)
      (expandLines splice defs scope ls) (expandLines splice' defs' scope' ls) := by
  induction ls generalizing scope scope' with
  | nil =>
      have hnil : scope.outer = [] ↔ scope'.outer = [] := by
        rw [← List.length_eq_zero_iff, ← List.length_eq_zero_iff, hdepth]
      rw [expandLines, expandLines]
      by_cases hout : scope.outer = []
      · rw [if_pos hout, if_pos (hnil.1 hout)]
        exact .ok trivial
      · rw [if_neg hout, if_neg (mt hnil.2 hout)]
        exact .error (.same (by simp) (by simp))
  | cons line ls ih =>
      rw [expandLines_cons, expandLines_cons]
      cases hnext : scope.next? defs line with
      | none =>
          have hnext' : scope'.next? defs' line = none := by
            rw [Scope.next?_eq_none_iff, ← hdepth]
            exact Scope.next?_eq_none_iff.1 hnext
          rw [hnext']
          exact .error (.same (by simp) (by simp))
      | some after =>
          have hlength := Scope.length_outer_next? hnext
          have hopen : 0 ≤ (scope'.outer.length : ℤ) + level line := by omega
          obtain ⟨after', hnext'⟩ := Scope.exists_next? defs' hopen
          have hlength' := Scope.length_outer_next? hnext'
          rw [hnext']
          refine Traced.Alike.bind (R := fun _ _ => True) ?_ fun text text' _ => ?_
          · by_cases himport : ∃ ref, Directive.ofLine? line = some (.splice ref)
            · obtain ⟨ref, hline⟩ := himport
              rw [ownText_of_splice hline, ownText_of_splice hline]
              exact hsplice ref
            · have hline : ∀ ref, Directive.ofLine? line ≠ some (.splice ref) :=
                fun ref hline => himport ⟨ref, hline⟩
              obtain ⟨text, htext⟩ := exists_ownText_eq_pure splice scope hline
              obtain ⟨text', htext'⟩ := exists_ownText_eq_pure splice' scope' hline
              rw [htext, htext']
              exact .ok trivial
          · exact (ih (by omega)).map fun _ _ _ => trivial

/-- Both results are text of one dialect. -/
def Processed.BothText (dialect : Dialect) (result result' : Processed) : Prop :=
  ∃ text text', result = .text dialect text ∧ result' = .text dialect text'

/-- An import takes the same course if every text does that it may lead to. -/
lemma spliceRef_alike (hempty : defs' = [] → defs = []) {depth : ℕ}
    (htext : ∀ imported other content, imported.source = .text other content →
      Traced.Alike (library.Restated defs defs') (Processed.BothText other)
        (expand library defs depth imported) (expand library defs' depth imported))
    (dialect : Dialect) (ref : ImportRef) :
    Traced.Alike (library.Restated defs defs') (fun _ _ => True)
      (spliceRef library dialect (expand library defs depth) ref)
      (spliceRef library dialect (expand library defs' depth) ref) := by
  unfold spliceRef
  split
  · exact .error (.same (by simp) (by simp))
  · next h imported hresolve =>
      refine Traced.Alike.bind (R := fun _ _ => True) (.ok trivial) fun _ _ _ => ?_
      cases hsource : imported.source with
      | text other content =>
          refine (htext imported other content hsource).bind ?_
          rintro _ _ ⟨text, text', rfl, rfl⟩
          rw [spliceable, spliceable]
          split
          · exact .ok trivial
          · refine .error (.same (fun ref' href' hmodule => ?_) (by simp))
            cases href'
            obtain ⟨h', shader, data, hresolve', hdata⟩ := hmodule
            rw [hresolve] at hresolve'
            cases hresolve'
            rw [hsource] at hdata
            cases hdata
      | spirv data =>
          cases depth with
          | zero => exact .error (.same (by simp) (by simp))
          | succ depth =>
              have hmodule : library.LeadsToModule ref := ⟨h, imported, data, hresolve, hsource⟩
              rw [expand_module hsource, expand_module hsource]
              by_cases hnone : defs = []
              · by_cases hnone' : defs' = []
                · rw [if_pos hnone, if_pos hnone']
                  exact .error (.same (fun _ _ _ _ => hnone') (by simp))
                · rw [if_pos hnone, if_neg hnone']
                  exact .error (.refused hmodule hnone hnone')
              · rw [if_neg hnone, if_neg (mt hempty hnone)]
                exact .error (.same (by simp) fun _ => hnone)

/-- A text takes the same course under two sets of names, if names are defined in the second
wherever they are in the first. -/
lemma expand_alike (hempty : defs' = [] → defs = []) (depth : ℕ) {shader : Shader}
    {dialect : Dialect} {content : String} (hsource : shader.source = .text dialect content) :
    Traced.Alike (library.Restated defs defs') (Processed.BothText dialect)
      (expand library defs depth shader) (expand library defs' depth shader) := by
  induction depth generalizing shader dialect content with
  | zero => exact .error (.same (by simp) (by simp))
  | succ depth ih =>
      rw [expand_text hsource, expand_text hsource]
      refine (expandLines_alike (fun ref => ?_) rfl _).map fun text text' _ => ⟨_, _, rfl, rfl⟩
      exact spliceRef_alike hempty (fun imported other text => ih) dialect ref

/-- A text is refused because of the names exactly if without names it fails on a compiled module
that it imports. -/
lemma expand_unsupportedDefs_iff (hsome : defs ≠ []) {depth : ℕ} {shader : Shader}
    {dialect : Dialect} {content : String} (hsource : shader.source = .text dialect content) :
    (expand library defs depth shader).outcome = .error (.fault .unsupportedDefs) ↔
      ∃ ref, library.LeadsToModule ref ∧
        (expand library [] depth shader).outcome = .error (.fault (.mismatched ref)) := by
  have halike : Traced.Alike (library.Restated [] defs) (Processed.BothText dialect)
      (expand library [] depth shader) (expand library defs depth shader) :=
    expand_alike (fun _ => rfl) depth hsource
  constructor
  · intro hfails
    obtain ⟨stop, hstop, hreason⟩ := halike.exists_error_left hfails
    cases hreason with
    | same _ hnames => exact absurd rfl (hnames rfl)
    | refused hmodule => exact ⟨_, hmodule, hstop⟩
  · rintro ⟨ref, hmodule, hstop⟩
    obtain ⟨stop, hfails, hreason⟩ := halike.exists_error_right hstop
    cases hreason with
    | same hfits => exact absurd (hfits ref rfl hmodule rfl) hsome
    | refused => exact hfails

/-- For any other reason a text fails with names exactly if it fails so without them, and not on a
compiled module. -/
lemma expand_error_iff_of_ne (hsome : defs ≠ []) {depth : ℕ} {shader : Shader}
    {dialect : Dialect} {content : String} (hsource : shader.source = .text dialect content)
    {stop : Stop} (hstop : stop ≠ .fault .unsupportedDefs) :
    (expand library defs depth shader).outcome = .error stop ↔
      (expand library [] depth shader).outcome = .error stop ∧
        ∀ ref, stop = .fault (.mismatched ref) → ¬ library.LeadsToModule ref := by
  have halike : Traced.Alike (library.Restated [] defs) (Processed.BothText dialect)
      (expand library [] depth shader) (expand library defs depth shader) :=
    expand_alike (fun _ => rfl) depth hsource
  constructor
  · intro hfails
    obtain ⟨stop', hfails', hreason⟩ := halike.exists_error_left hfails
    cases hreason with
    | same hfits => exact ⟨hfails', fun ref href hmodule => hsome (hfits ref href hmodule rfl)⟩
    | refused => exact absurd rfl hstop
  · rintro ⟨hfails, hfits⟩
    obtain ⟨stop', hfails', hreason⟩ := halike.exists_error_right hfails
    cases hreason with
    | same => exact hfails'
    | refused hmodule => exact absurd hmodule (hfits _ rfl)

end

/-- **Failure and names.** Whatever names are defined, a text is preprocessed with the same imports
spliced in, and fails or does not fail. It fails for the same reason if names are defined in both
cases or in none. If they are defined in one case only, the reasons differ where a compiled module
is imported: it does not fit, or is refused because of the names. -/
theorem preprocess_failure_of_defs (library : Library) {shader : Shader} {dialect : Dialect}
    {content : String} (hsource : shader.source = .text dialect content)
    (defs defs' : List String) :
    (library.preprocess defs shader).events = (library.preprocess defs' shader).events ∧
    ((∃ result, (library.preprocess defs shader).outcome = .ok result) ↔
      ∃ result, (library.preprocess defs' shader).outcome = .ok result) ∧
    ((defs = [] ↔ defs' = []) → ∀ stop,
      (library.preprocess defs shader).outcome = .error stop ↔
        (library.preprocess defs' shader).outcome = .error stop) ∧
    (defs = [] → defs' ≠ [] →
      ((library.preprocess defs' shader).outcome = .error (.fault .unsupportedDefs) ↔
        ∃ ref, library.LeadsToModule ref ∧
          (library.preprocess defs shader).outcome = .error (.fault (.mismatched ref))) ∧
      ∀ stop, stop ≠ .fault .unsupportedDefs →
        ((library.preprocess defs' shader).outcome = .error stop ↔
          (library.preprocess defs shader).outcome = .error stop ∧
            ∀ ref, stop = .fault (.mismatched ref) → ¬ library.LeadsToModule ref)) := by
  have hside : (defs' = [] → defs = []) ∨ (defs = [] → defs' = []) := by
    by_cases hnone : defs = []
    · exact Or.inl fun _ => hnone
    · exact Or.inr fun h => absurd h hnone
  refine ⟨?_, ?_, fun hboth stop => ?_, ?_⟩
  · obtain hempty | hempty := hside
    · exact (expand_alike hempty _ hsource).events_eq
    · exact (expand_alike hempty _ hsource).events_eq.symm
  · obtain hempty | hempty := hside
    · exact (expand_alike hempty _ hsource).exists_ok_iff
    · exact (expand_alike hempty _ hsource).exists_ok_iff.symm
  · refine (expand_alike hboth.2 _ hsource).outcome_eq_error_iff fun stop stop' hreason => ?_
    exact hreason.eq hboth.1
  · rintro rfl hsome
    exact ⟨expand_unsupportedDefs_iff hsome hsource,
      fun stop hstop => expand_error_iff_of_ne hsome hsource hstop⟩

/-- A library with a compiled module. -/
def moduleLibrary : Library := ⟨.ofList [(⟨0⟩, ⟨.spirv [3, 2, 35, 7], none⟩)],
  .ofList [(.custom "m", ⟨0⟩)]⟩

/-- A text that imports the module in a block: without names the module does not fit, and with
names it is refused, be the block kept or not. -/
theorem preprocess_failure_on_module :
    (moduleLibrary.preprocess [] ⟨.text .wgsl "#ifdef A\n#import m\n#endif", none⟩).outcome =
      .error (.fault (.mismatched (.custom "m"))) ∧
    (moduleLibrary.preprocess ["A"] ⟨.text .wgsl "#ifdef A\n#import m\n#endif", none⟩).outcome =
      .error (.fault .unsupportedDefs) ∧
    (moduleLibrary.preprocess ["B"] ⟨.text .wgsl "#ifdef A\n#import m\n#endif", none⟩).outcome =
      .error (.fault .unsupportedDefs) := by
  have hmodule : moduleLibrary.LeadsToModule (.custom "m") := ⟨⟨0⟩, _, _, rfl, rfl⟩
  have hnone : (moduleLibrary.preprocess []
      ⟨.text .wgsl "#ifdef A\n#import m\n#endif", none⟩).outcome =
        .error (.fault (.mismatched (.custom "m"))) := rfl
  have hsource : (⟨.text .wgsl "#ifdef A\n#import m\n#endif", none⟩ : Shader).source =
      .text .wgsl "#ifdef A\n#import m\n#endif" := rfl
  obtain ⟨-, -, -, hrefused⟩ := preprocess_failure_of_defs moduleLibrary hsource [] ["A"]
  obtain ⟨-, -, hsame, -⟩ := preprocess_failure_of_defs moduleLibrary hsource ["A"] ["B"]
  have hkept := (hrefused rfl (by simp)).1.2 ⟨_, hmodule, hnone⟩
  exact ⟨hnone, hkept, (hsame (by simp) _).1 hkept⟩

end ShaderPreprocessor
