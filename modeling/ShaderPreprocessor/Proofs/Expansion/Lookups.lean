/-
Which references an expansion looks up, and in which order imports are spliced in.

* `lookups`: the references that the lines of one text look up, told by the expansion of the lines
  itself. `lookups_prefix` and `lookups_eq_of_ok` compare them with the references that are read
  off the lines without regard to conditions, and `expandLines_events` says that an expansion tells
  of what its look-ups tell of, and of nothing else;
* `Library.lookups`: the same for the lines of a shader;
* `Library.Unfolds`: the imports that stand behind references, depth first: a reference, all that
  stands behind the shader it leads to, then the next reference. `Unfolds.unique` says that there
  is one such order at most;
* `Library.unfolds_events`: an expansion that succeeds tells of its imports in this order;
* `preprocess_lookups`: look-ups and imports agree.
-/
import ShaderPreprocessor.Proofs.Expansion.Independence
import ShaderPreprocessor.Proofs.Expansion.Success

namespace ShaderPreprocessor

open Text

/-! ### The lines of one text -/

section

variable {splice : ImportRef → Expanding (List Char)} {defs : List String} {scope scope' : Scope}
  {line : Line} {ls : List Line} {ref : ImportRef}

/-- What a reference stands for, telling of the reference itself and of nothing else. -/
def told (splice : ImportRef → Expanding (List Char)) (ref : ImportRef) : Expanding (List Char) :=
  ⟨[⟨ref, ⟨0⟩⟩], (splice ref).outcome⟩

/-- The references that lines look up, in order, those that have no text included. -/
def lookups (splice : ImportRef → Expanding (List Char)) (defs : List String) (scope : Scope)
    (ls : List Line) : List ImportRef :=
  (expandLines (told splice) defs scope ls).events.map Inlining.ref

/-- At the end of a text nothing is told of any more. -/
lemma expandLines_nil_events (splice : ImportRef → Expanding (List Char)) (defs : List String)
    (scope : Scope) : (expandLines splice defs scope []).events = [] := by
  rw [expandLines]
  split <;> rfl

@[simp] lemma lookups_nil (splice : ImportRef → Expanding (List Char)) (defs : List String)
    (scope : Scope) : lookups splice defs scope [] = [] := by
  rw [lookups, expandLines_nil_events, List.map_nil]

/-- A line that closes a block that is not open looks up nothing, and nothing follows it. -/
lemma lookups_cons_of_closed (hnext : scope.next? defs line = none) :
    lookups splice defs scope (line :: ls) = [] := by
  rw [lookups, expandLines_cons, hnext]
  rfl

/-- An import line looks up its reference, and the other lines follow if it has a text. -/
lemma lookups_cons_of_import (hnext : scope.next? defs line = some scope')
    (hline : Directive.ofLine? line = some (.splice ref)) :
    lookups splice defs scope (line :: ls) =
      ref :: match (splice ref).outcome with
        | .ok _ => lookups splice defs scope' ls
        | .error _ => [] := by
  rw [lookups, expandLines_cons, hnext]
  dsimp only
  rw [ownText_of_splice hline, told]
  cases (splice ref).outcome with
  | ok text => rfl
  | error e => rfl

/-- Any other line looks up nothing. -/
lemma lookups_cons_of_no_import (hnext : scope.next? defs line = some scope')
    (hline : ∀ ref, Directive.ofLine? line ≠ some (.splice ref)) :
    lookups splice defs scope (line :: ls) = lookups splice defs scope' ls := by
  obtain ⟨text, htext⟩ := exists_ownText_eq_pure (told splice) scope hline
  rw [lookups, expandLines_cons, hnext]
  dsimp only
  rw [htext]
  rfl

/-- A line is an import line or is none. -/
lemma import_or_no_import (line : Line) :
    (∃ ref, Directive.ofLine? line = some (.splice ref) ∧ importRef? line = some ref) ∨
      (∀ ref, Directive.ofLine? line ≠ some (.splice ref)) ∧ importRef? line = none := by
  cases href : importRef? line with
  | some ref => exact .inl ⟨ref, Directive.ofLine?_eq_splice_iff.2 href, rfl⟩
  | none =>
      refine .inr ⟨fun ref hline => ?_, rfl⟩
      rw [Directive.ofLine?_eq_splice_iff, href] at hline
      cases hline

/-- What lines look up are references that are read off them, from the first one on, whatever block
they are in. -/
lemma lookups_prefix (splice : ImportRef → Expanding (List Char)) (defs : List String)
    (scope : Scope) (ls : List Line) :
    lookups splice defs scope ls <+: ls.filterMap importRef? := by
  induction ls generalizing scope with
  | nil => simp
  | cons line ls ih =>
      cases hnext : scope.next? defs line with
      | none =>
          rw [lookups_cons_of_closed hnext]
          exact List.nil_prefix
      | some scope' =>
          obtain ⟨ref, hline, href⟩ | ⟨hline, href⟩ := import_or_no_import line
          · rw [lookups_cons_of_import hnext hline, List.filterMap_cons_some href]
            refine List.cons_prefix_cons.2 ⟨rfl, ?_⟩
            cases (splice ref).outcome with
            | ok text => exact ih scope'
            | error e => exact List.nil_prefix
          · rw [lookups_cons_of_no_import hnext hline, List.filterMap_cons_none href]
            exact ih scope'

/-- Lines that can be expanded look up all references that are read off them. -/
lemma lookups_eq_of_ok {text : List Char}
    (h : (expandLines splice defs scope ls).outcome = .ok text) :
    lookups splice defs scope ls = ls.filterMap importRef? := by
  induction ls generalizing scope text with
  | nil => simp
  | cons line ls ih =>
      rw [expandLines_cons] at h
      cases hnext : scope.next? defs line with
      | none =>
          rw [hnext] at h
          cases h
      | some scope' =>
          rw [hnext] at h
          obtain ⟨part, hpart, hrest⟩ := Traced.bind_outcome_eq_ok_iff.1 h
          obtain ⟨rest, hrest, -⟩ := Traced.map_outcome_eq_ok_iff.1 hrest
          obtain ⟨ref, hline, href⟩ | ⟨hline, href⟩ := import_or_no_import line
          · rw [ownText_of_splice hline] at hpart
            rw [lookups_cons_of_import hnext hline, List.filterMap_cons_some href, hpart, ih hrest]
          · rw [lookups_cons_of_no_import hnext hline, List.filterMap_cons_none href, ih hrest]

/-- An expansion tells of what its look-ups tell of, one after another. -/
lemma expandLines_events (splice : ImportRef → Expanding (List Char)) (defs : List String)
    (scope : Scope) (ls : List Line) :
    (expandLines splice defs scope ls).events =
      (lookups splice defs scope ls).flatMap fun ref => (splice ref).events := by
  induction ls generalizing scope with
  | nil => rw [expandLines_nil_events, lookups_nil, List.flatMap_nil]
  | cons line ls ih =>
      cases hnext : scope.next? defs line with
      | none =>
          rw [lookups_cons_of_closed hnext, expandLines_cons, hnext]
          rfl
      | some scope' =>
          rw [expandLines_cons, hnext]
          dsimp only
          obtain ⟨ref, hline, -⟩ | ⟨hline, -⟩ := import_or_no_import line
          · rw [ownText_of_splice hline, lookups_cons_of_import hnext hline, List.flatMap_cons,
              Traced.bind]
            cases (splice ref).outcome with
            | ok text => exact congrArg _ (ih scope')
            | error e => exact (List.append_nil _).symm
          · obtain ⟨text, htext⟩ := exists_ownText_eq_pure splice scope hline
            rw [htext, lookups_cons_of_no_import hnext hline, Traced.pure_bind]
            exact ih scope'

end

/-! ### Shaders -/

namespace Library

variable {library : Library} {defs : List String}

/-- The references that the lines of a shader look up when it is preprocessed. -/
def lookups (library : Library) (defs : List String) (shader : Shader) : List ImportRef :=
  match shader.source with
  | .spirv _ => []
  | .text dialect content =>
    ShaderPreprocessor.lookups
      (spliceRef library dialect (expand library defs library.shaders.size)) defs .root
      (lines content.toList)

/-- The imports that stand behind references, depth first: a reference, all that stands behind the
shader that it leads to, then the next reference. -/
inductive Unfolds (library : Library) : List ImportRef → List Inlining → Prop where
  /-- Nothing stands behind no reference. -/
  | nil : Unfolds library [] []
  /-- The first reference, what stands behind its shader, and the other references. -/
  | cons {ref : ImportRef} {refs : List ImportRef} {h : Handle} {imported : Shader}
      {below rest : List Inlining} (hresolve : library.resolve? ref = some (h, imported))
      (hbelow : Unfolds library imported.imports below) (hrest : Unfolds library refs rest) :
      Unfolds library (ref :: refs) (⟨ref, h⟩ :: below ++ rest)

/-- There is one order at most. -/
lemma Unfolds.unique {refs : List ImportRef} {order order' : List Inlining}
    (h : library.Unfolds refs order) (h' : library.Unfolds refs order') : order = order' := by
  induction h generalizing order' with
  | nil =>
      cases h'
      rfl
  | cons hresolve _ _ ihbelow ihrest =>
      cases h' with
      | cons hresolve' hbelow' hrest' =>
          rw [hresolve] at hresolve'
          cases hresolve'
          rw [ihbelow hbelow', ihrest hrest']

/-- What stands behind each of several references by itself, one after another. -/
lemma Unfolds.flatMap {events : ImportRef → List Inlining} {refs : List ImportRef}
    (hrefs : ∀ ref ∈ refs, ∃ h imported below, library.resolve? ref = some (h, imported) ∧
      library.Unfolds imported.imports below ∧ events ref = ⟨ref, h⟩ :: below) :
    library.Unfolds refs (refs.flatMap events) := by
  induction refs with
  | nil => exact .nil
  | cons ref refs ih =>
      obtain ⟨h, imported, below, hresolve, hbelow, hevents⟩ := hrefs ref List.mem_cons_self
      rw [List.flatMap_cons, hevents]
      exact .cons hresolve hbelow (ih fun r hr => hrefs r (List.mem_cons_of_mem _ hr))

/-- An import tells of itself and of what its shader tells of, if it leads to one. -/
lemma spliceRef_events (library : Library) (dialect : Dialect)
    (process : Shader → Expanding Processed) (ref : ImportRef) :
    (spliceRef library dialect process ref).events =
      match library.resolve? ref with
      | none => []
      | some (h, imported) => ⟨ref, h⟩ :: (process imported).events := by
  have hsilent : ∀ processed, (spliceable dialect ref processed).events = [] := by
    intro processed
    unfold spliceable
    split
    · split <;> rfl
    · rfl
  rw [spliceRef]
  cases library.resolve? ref with
  | none => rfl
  | some found =>
      dsimp only
      rw [Traced.bind, Traced.record, Traced.bind]
      cases (process found.2).outcome with
      | ok processed => simp [hsilent]
      | error e => rfl

/-- An expansion that succeeds tells of the imports that stand behind the references of the
shader. -/
lemma unfolds_events {depth : ℕ} {shader : Shader} {result : Processed}
    (h : (expand library defs depth shader).outcome = .ok result) :
    library.Unfolds shader.imports (expand library defs depth shader).events := by
  induction depth generalizing shader result with
  | zero => cases h
  | succ depth ih =>
      cases hsource : shader.source with
      | spirv data =>
          rw [expand_module hsource] at h ⊢
          split at h
          · next hnone =>
              rw [if_pos hnone, Shader.imports, hsource]
              exact .nil
          · cases h
      | text dialect content =>
          obtain ⟨text, htext, -⟩ := (expand_text_outcome_eq_ok_iff hsource).1 h
          have himports : shader.imports = (lines content.toList).filterMap importRef? := by
            rw [Shader.imports, hsource]
            rfl
          rw [expand_text hsource, Traced.map, expandLines_events, lookups_eq_of_ok htext,
            himports]
          refine Unfolds.flatMap fun ref href => ?_
          obtain ⟨line, hline, href⟩ := List.mem_filterMap.1 href
          obtain ⟨part, hpart⟩ := (exists_expandLines_ok_iff.1 ⟨text, htext⟩).imports line hline ref
            (Directive.ofLine?_eq_splice_iff.2 href)
          obtain ⟨g, imported, other, content', hresolve, hprocess, -⟩ :=
            spliceRef_outcome_eq_ok_iff.1 hpart
          exact ⟨g, imported, _, hresolve, ih hprocess, by rw [spliceRef_events, hresolve]⟩

end Library

/-- A text tells of the same imports under all names. -/
lemma expand_events_congr {library : Library} (defs defs' : List String) (depth : ℕ)
    {shader : Shader} {dialect : Dialect} {content : String}
    (hsource : shader.source = .text dialect content) :
    (expand library defs depth shader).events = (expand library defs' depth shader).events := by
  by_cases hnone : defs = []
  · exact (expand_alike (fun _ => hnone) depth hsource).events_eq
  · exact (expand_alike (fun h => absurd h hnone) depth hsource).events_eq.symm

/-- **Look-ups and imports.** Whatever names are defined and whatever a library holds, the
references that the lines of a text look up are its imports, from the first one on, and each of
them tells of itself and of what follows from it, if it leads to a shader. If preprocessing
succeeds, all imports are looked up, and what is spliced in altogether is what stands behind the
imports depth first, with repetitions. This is the same under all other names. -/
theorem preprocess_lookups (library : Library) {shader : Shader} {dialect : Dialect}
    {content : String} (hsource : shader.source = .text dialect content) (defs : List String) :
    library.lookups defs shader <+: shader.imports ∧
    (library.preprocess defs shader).events =
      ((library.lookups defs shader).flatMap fun ref =>
        match library.resolve? ref with
        | none => []
        | some (h, imported) =>
          ⟨ref, h⟩ :: (expand library defs library.shaders.size imported).events) ∧
    ∀ result, (library.preprocess defs shader).outcome = .ok result →
      library.lookups defs shader = shader.imports ∧
      (∀ order, library.Unfolds shader.imports order ↔
        order = (library.preprocess defs shader).events) ∧
      ∀ defs', (library.preprocess defs' shader).events =
        (library.preprocess defs shader).events := by
  have hlookups : library.lookups defs shader =
      lookups (spliceRef library dialect (expand library defs library.shaders.size)) defs .root
        (lines content.toList) := by
    rw [Library.lookups, hsource]
  have himports : shader.imports = (lines content.toList).filterMap importRef? := by
    rw [Shader.imports, hsource]
    rfl
  refine ⟨?_, ?_, fun result hresult => ⟨?_, fun order => ?_, fun defs' => ?_⟩⟩
  · rw [hlookups, himports]
    exact lookups_prefix _ _ _ _
  · rw [Library.preprocess, Library.depthBound, expand_text hsource, Traced.map,
      expandLines_events, hlookups]
    exact congrArg (List.flatMap · _) (funext fun ref => Library.spliceRef_events _ _ _ ref)
  · obtain ⟨text, htext, -⟩ := (expand_text_outcome_eq_ok_iff hsource).1 hresult
    rw [hlookups, himports, lookups_eq_of_ok htext]
  · have hunfolds := Library.unfolds_events hresult
    constructor
    · intro horder
      exact horder.unique hunfolds
    · rintro rfl
      exact hunfolds
  · exact expand_events_congr defs' defs _ hsource

/-- A library in which one shader imports another. -/
def nestedLibrary : Library where
  shaders := .ofList [(⟨0⟩, ⟨.text .wgsl "a\n", none⟩),
    (⟨1⟩, ⟨.text .wgsl "#import \"a\"\nb\n", none⟩)]
  imports := .ofList [(.asset "a", ⟨0⟩), (.asset "b", ⟨1⟩)]

/-- A text that imports both, one of them in a block. -/
def nestedImports : Shader := ⟨.text .wgsl "#ifdef A\n#import \"b\"\n#endif\n#import \"a\"", none⟩

/-- Without names the block is not kept. The shader in it is spliced in all the same, and the inner
one twice. -/
theorem preprocess_lookups_nested :
    nestedLibrary.lookups [] nestedImports = [.asset "b", .asset "a"] ∧
    nestedLibrary.Unfolds [.asset "b", .asset "a"]
      [⟨.asset "b", ⟨1⟩⟩, ⟨.asset "a", ⟨0⟩⟩, ⟨.asset "a", ⟨0⟩⟩] := by
  have hsource : nestedImports.source =
      .text .wgsl "#ifdef A\n#import \"b\"\n#endif\n#import \"a\"" := rfl
  have hok : (nestedLibrary.preprocess [] nestedImports).outcome =
      .ok (.text .wgsl "a\nb\na\n") := rfl
  obtain ⟨-, -, hsucceeds⟩ := preprocess_lookups nestedLibrary hsource []
  obtain ⟨hlookups, horder, -⟩ := hsucceeds _ hok
  exact ⟨hlookups, (horder _).2 rfl⟩

end ShaderPreprocessor
