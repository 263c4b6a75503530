/-
The same lines with other line ends.

* `Text.Renders`: a text renders lines, each ended by a line feed or by a carriage return and a line
  feed. `Text.Renders.lines_eq` reads the lines back;
* `Shader.content`: what preprocessing sees of a shader, which is the lines of its text;
* `Library.LooksLike`: two libraries in which this is the same for all that is stored;
* `expand_eq_of_content`: shaders of the same lines come to the same in such libraries, by way of
  the same imports;
* `Shader.Rerenders`, `Library.Rerenders`: texts replaced by other renderings of their lines;
* `preprocess_rerendered`: this makes no difference.
-/
import ShaderPreprocessor.Proofs.Expansion.Imports
import ShaderPreprocessor.Proofs.Text.EndedLines

namespace ShaderPreprocessor

/-! ### Renderings -/

namespace Text

/-- A text renders lines. A line that is ended by a line feed alone does not end in a carriage
return. The last line need not be ended, if it is not empty and does not end in a carriage
return. -/
inductive Renders : List Line → List Char → Prop where
  /-- No lines. -/
  | nil : Renders [] []
  /-- A last line that is not ended. -/
  | unended {line : Line} (hne : line ≠ []) (hline : '\n' ∉ line)
      (hend : line.getLast? ≠ some '\r') : Renders [line] line
  /-- A line ended by a line feed. -/
  | feed {line : Line} {ls : List Line} {text : List Char} (hline : '\n' ∉ line)
      (hend : line.getLast? ≠ some '\r') (hrest : Renders ls text) :
      Renders (line :: ls) (line ++ '\n' :: text)
  /-- A line ended by a carriage return and a line feed. -/
  | returnFeed {line : Line} {ls : List Line} {text : List Char} (hline : '\n' ∉ line)
      (hrest : Renders ls text) : Renders (line :: ls) (line ++ '\r' :: '\n' :: text)

/-- A text without line feeds is one piece, unless it is empty. -/
lemma pieces_eq_singleton {text : List Char} (hne : text ≠ []) (h : '\n' ∉ text) :
    pieces text = [text] := by
  induction text with
  | nil => exact absurd rfl hne
  | cons c text ih =>
      rw [List.mem_cons, not_or] at h
      rw [pieces, List.foldr_cons, ← pieces, addFront.eq_def, if_neg (Ne.symm h.1)]
      cases text with
      | nil => rfl
      | cons d text => rw [ih (List.cons_ne_nil _ _) h.2]

/-- The lines of a rendering are those that it renders. -/
lemma Renders.lines_eq {ls : List Line} {text : List Char} (h : Renders ls text) :
    lines text = ls := by
  induction h with
  | nil => rfl
  | unended hne hline hend =>
      rw [lines, pieces_eq_singleton hne hline, List.map_singleton, dropReturn_eq_self hend]
  | feed hline hend _ ih => rw [lines_append_newline hline, dropReturn_eq_self hend, ih]
  | @returnFeed line ls text hline _ ih =>
      -- the piece up to the line feed is the line and its carriage return
      have hpiece : '\n' ∉ line ++ ['\r'] := by
        rw [List.mem_append, List.mem_singleton, not_or]
        exact ⟨hline, by decide⟩
      rw [List.append_cons line '\r' ('\n' :: text), lines_append_newline hpiece,
        dropReturn_append_return, ih]

end Text

open Text

/-! ### What preprocessing sees -/

/-- What preprocessing sees of a shader: the dialect and the lines of its text, or the bytes of a
compiled module. -/
def Shader.content (shader : Shader) : (Dialect × List Line) ⊕ List UInt8 :=
  match shader.source with
  | .text dialect text => .inl (dialect, lines text.toList)
  | .spirv data => .inr data

/-- The references in a shader stand in its lines. -/
lemma Shader.imports_eq_of_content {shader shader' : Shader}
    (h : shader.content = shader'.content) : shader.imports = shader'.imports := by
  obtain ⟨_ | _, _⟩ := shader <;> obtain ⟨_ | _, _⟩ := shader' <;>
    simp_all [content, imports, Source.imports, importRefs]

/-- Tables with entries for the same keys have the same size. -/
lemma Table.size_eq_of_contains {κ α β : Type} [DecidableEq κ] {t : Table κ α} {t' : Table κ β}
    (h : ∀ k, t.contains k = t'.contains k) : t.size = t'.size := by
  have hkeys : ∀ k, k ∈ t.keys ↔ k ∈ t'.keys := fun k => by
    rw [mem_keys_iff, mem_keys_iff, ← Option.isSome_iff_exists, ← Option.isSome_iff_exists]
    exact Bool.eq_iff_iff.1 (h k)
  have hperm := ((List.perm_ext_iff_of_nodup t.nodup t'.nodup).2 hkeys).length_eq
  rwa [List.length_map, List.length_map] at hperm

/-- Two libraries in which references stand for the same handles, and preprocessing sees the same
under every handle. -/
structure Library.LooksLike (library library' : Library) : Prop where
  /-- References stand for the same handles. -/
  imports : ∀ ref, library.imports.get? ref = library'.imports.get? ref
  /-- The same is seen under every handle. -/
  shaders : ∀ h, (library.shaders.get? h).map Shader.content =
    (library'.shaders.get? h).map Shader.content

namespace Library.LooksLike

variable {library library' : Library} {defs : List String}

/-- They store the same number of shaders. -/
lemma depthBound_eq (h : library.LooksLike library') :
    library.depthBound = library'.depthBound := by
  have hsize : library.shaders.size = library'.shaders.size := Table.size_eq_of_contains fun g => by
    have hsome := congrArg Option.isSome (h.shaders g)
    rwa [Option.isSome_map, Option.isSome_map] at hsome
  rw [depthBound, depthBound, hsize]

/-- An import comes to the same if shaders of which the same is seen do. -/
lemma spliceRef_eq (h : library.LooksLike library')
    {process process' : Shader → Expanding Processed}
    (hprocess : ∀ shader shader', shader.content = shader'.content →
      process shader = process' shader') (dialect : Dialect) (ref : ImportRef) :
    spliceRef library dialect process ref = spliceRef library' dialect process' ref := by
  rw [spliceRef, spliceRef, resolve?, resolve?, ← h.imports ref]
  cases library.imports.get? ref with
  | none => rfl
  | some g =>
      have hsame := h.shaders g
      dsimp only [Option.bind_some]
      cases hfound : library.shaders.get? g with
      | none =>
          rw [hfound, Option.map_none, eq_comm, Option.map_eq_none_iff] at hsame
          rw [hsame]
          rfl
      | some shader =>
          rw [hfound, Option.map_some, eq_comm, Option.map_eq_some_iff] at hsame
          obtain ⟨shader', hfound', hcontent⟩ := hsame
          rw [hfound']
          dsimp only [Option.map_some]
          rw [hprocess shader shader' hcontent.symm]

/-- Shaders of which the same is seen come to the same at every depth, imports told of included. -/
lemma expand_eq_of_content (h : library.LooksLike library') {depth : ℕ} {shader shader' : Shader}
    (hcontent : shader.content = shader'.content) :
    expand library defs depth shader = expand library' defs depth shader' := by
  induction depth generalizing shader shader' with
  | zero => rfl
  | succ depth ih =>
      rw [Shader.content, Shader.content] at hcontent
      cases hsource : shader.source with
      | spirv data =>
          cases hsource' : shader'.source with
          | text dialect text =>
              rw [hsource, hsource'] at hcontent
              cases hcontent
          | spirv data' =>
              rw [hsource, hsource'] at hcontent
              cases hcontent
              rw [expand_module hsource, expand_module hsource']
      | text dialect text =>
          cases hsource' : shader'.source with
          | spirv data' =>
              rw [hsource, hsource'] at hcontent
              cases hcontent
          | text dialect' text' =>
              rw [hsource, hsource', Sum.inl.injEq, Prod.mk.injEq] at hcontent
              obtain ⟨rfl, hlines⟩ := hcontent
              have hsplice : spliceRef library dialect (expand library defs depth) =
                  spliceRef library' dialect (expand library' defs depth) :=
                funext (h.spliceRef_eq (fun _ _ => ih) dialect)
              rw [expand_text hsource, expand_text hsource', hlines, hsplice]

end Library.LooksLike

/-! ### Texts rendered again -/

/-- A shader with another rendering of its lines, or the same one. -/
inductive Shader.Rerenders : Shader → Shader → Prop where
  /-- Nothing is changed. -/
  | same (shader : Shader) : Rerenders shader shader
  /-- The text is another rendering of the lines that it renders. -/
  | text {dialect : Dialect} {text text' : String} {importPath : Option ImportRef}
      {ls : List Line} (h : Renders ls text.toList) (h' : Renders ls text'.toList) :
      Rerenders ⟨.text dialect text, importPath⟩ ⟨.text dialect text', importPath⟩

/-- Preprocessing sees no difference. -/
lemma Shader.Rerenders.content_eq {shader shader' : Shader} (h : shader.Rerenders shader') :
    shader.content = shader'.content := by
  cases h with
  | same => rfl
  | text h h' => simp only [content, h.lines_eq, h'.lines_eq]

/-- A library with other renderings of the lines of the shaders that it stores. -/
structure Library.Rerenders (library library' : Library) : Prop where
  /-- References stand for the same handles. -/
  imports : ∀ ref, library.imports.get? ref = library'.imports.get? ref
  /-- The shaders under the same handles render the same lines. -/
  shaders : ∀ h, Option.Rel Shader.Rerenders (library.shaders.get? h) (library'.shaders.get? h)

/-- Preprocessing sees no difference in the whole library. -/
lemma Library.Rerenders.looksLike {library library' : Library} (h : library.Rerenders library') :
    library.LooksLike library' where
  imports := h.imports
  shaders g := by
    have hrel := h.shaders g
    generalize library.shaders.get? g = found at hrel ⊢
    generalize library'.shaders.get? g = found' at hrel ⊢
    cases hrel with
    | none => rfl
    | some hshader => rw [Option.map_some, Option.map_some, hshader.content_eq]

/-- **Line ends do not matter.** The lines of a text are those that it renders, whether each of them
is ended by a line feed or by a carriage return and a line feed, and no line of any text holds a
line feed. So shaders that render the same lines have the same references, and a shader comes to the
same result or error, and by the same imports, when its own text and those of all stored shaders are
rendered in other ways. -/
theorem preprocess_rerendered :
    (∀ ls text, Renders ls text → lines text = ls) ∧
    (∀ text, ∀ line ∈ lines text, '\n' ∉ line) ∧
    (∀ shader shader' : Shader, shader.Rerenders shader' → shader.imports = shader'.imports) ∧
    ∀ (library library' : Library) (shader shader' : Shader) (defs : List String),
      library.Rerenders library' → shader.Rerenders shader' →
        library.preprocess defs shader = library'.preprocess defs shader' := by
  refine ⟨fun _ _ h => h.lines_eq, fun _ _ => newline_not_mem_of_mem_lines,
    fun _ _ h => Shader.imports_eq_of_content h.content_eq,
    fun library library' shader shader' defs hlibrary hshader => ?_⟩
  rw [Library.preprocess, Library.preprocess, hlibrary.looksLike.depthBound_eq]
  exact hlibrary.looksLike.expand_eq_of_content hshader.content_eq

/-- A library with one shader of two lines. -/
def plainLibrary (text : String) : Library where
  shaders := .ofList [(⟨0⟩, ⟨.text .wgsl text, none⟩)]
  imports := .ofList [(.custom "part", ⟨0⟩)]

/-- Both lines ended by a line feed alone, and by a carriage return as well; and an import of them
with and without an end, where the line before it goes on to end in a carriage return of its own. -/
theorem preprocess_rerendered_part :
    Renders ["p".toList, "".toList] "p\n\n".toList ∧
    Renders ["p".toList, "".toList] "p\r\n\r\n".toList ∧
    Renders ["m\r".toList, "#import part".toList] "m\r\r\n#import part".toList ∧
    Renders ["m\r".toList, "#import part".toList] "m\r\r\n#import part\n".toList ∧
    ((plainLibrary "p\n\n").preprocess [] ⟨.text .wgsl "m\r\r\n#import part", none⟩).outcome =
      ((plainLibrary "p\r\n\r\n").preprocess []
        ⟨.text .wgsl "m\r\r\n#import part\n", none⟩).outcome := by
  have hfeeds : Renders ["p".toList, "".toList] "p\n\n".toList := by
    change Renders _ ("p".toList ++ '\n' :: ("".toList ++ '\n' :: []))
    exact .feed (by decide) (by decide) (.feed (by decide) (by decide) .nil)
  have hreturns : Renders ["p".toList, "".toList] "p\r\n\r\n".toList := by
    change Renders _ ("p".toList ++ '\r' :: '\n' :: ("".toList ++ '\r' :: '\n' :: []))
    exact .returnFeed (by decide) (.returnFeed (by decide) .nil)
  have hopen : Renders ["m\r".toList, "#import part".toList] "m\r\r\n#import part".toList := by
    change Renders _ ("m\r".toList ++ '\r' :: '\n' :: "#import part".toList)
    exact .returnFeed (by decide) (.unended (by decide) (by decide) (by decide))
  have hclosed : Renders ["m\r".toList, "#import part".toList] "m\r\r\n#import part\n".toList := by
    change Renders _ ("m\r".toList ++ '\r' :: '\n' :: ("#import part".toList ++ '\n' :: []))
    exact .returnFeed (by decide) (.feed (by decide) (by decide) .nil)
  have hlibrary : (plainLibrary "p\n\n").Rerenders (plainLibrary "p\r\n\r\n") := by
    refine ⟨fun _ => rfl, fun h => ?_⟩
    have hget : ∀ text, (plainLibrary text).shaders.get? h =
        if ⟨0⟩ = h then some ⟨.text .wgsl text, none⟩ else none := fun _ => rfl
    rw [hget, hget]
    split
    · exact .some (Shader.Rerenders.text hfeeds hreturns)
    · exact .none
  refine ⟨hfeeds, hreturns, hopen, hclosed, ?_⟩
  rw [preprocess_rerendered.2.2.2 _ _ _ _ [] hlibrary (.text hopen hclosed)]

end ShaderPreprocessor
