/-
References written as shaders write them, and read again.

* `ImportRef.lineOf`: the import line of a word;
* `ImportRef.Writable`: the references that are read off some line. No path is empty, no name has
  blanks at its ends or looks like a file in quotes, and there are no line feeds;
* `ImportRef.Tail.writable`, `writable_of_importRef?`: nothing else is read;
* `ImportRef.Writable.importRef?_lineOf`: all of these are read off their own lines;
* `Library.resolve?_add_eq_some_iff`: what leads to a shader that was stored under a new handle;
* `importRef?_lineOf_iff`: which references come back from their lines, and under which names a
  shader can be imported.
-/
import ShaderPreprocessor.Library.Basic
import ShaderPreprocessor.Proofs.Directive.Grammar

namespace ShaderPreprocessor

open Text

namespace ImportRef

/-- The import line of a word. -/
def lineOf (word : String) : Line := "#import ".toList ++ word.toList

/-- What a line says that begins with the keyword and one blank is said by what follows. -/
lemma importRef?_lineOf_eq (word : String) :
    importRef? (lineOf word) = ofTail? (' ' :: word.toList) :=
  importRef?_keyword blanks_nil blanks_nil (' ' :: word.toList)

/-! ### References that can be written -/

/-- A word that does not look like a file in quotes: it does not start with a quote, or no quote
stands behind its second character. -/
def Unquoted (word : List Char) : Prop :=
  ∀ inner rest, word = '"' :: (inner ++ '"' :: rest) → inner = []

/-- References that are read off some line. -/
def Writable : ImportRef → Prop
  | asset path => path ≠ "" ∧ '\n' ∉ path.toList
  | custom name => '\n' ∉ name.toList ∧ trim name.toList = name.toList ∧ Unquoted name.toList

/-- A word is trimmed if neither end of it is blank. -/
lemma trim_eq_self {word : List Char} (hfirst : ∀ c, word.head? = some c → isBlank c = false)
    (hlast : ∀ c, word.getLast? = some c → isBlank c = false) : trim word = word := by
  rw [trim, trimStart_eq_self hfirst]
  exact trimEnd_eq_iff.2 ⟨[], blanks_nil, hlast, (List.append_nil word).symm⟩

/-- Neither end of a trimmed word is blank. -/
lemma ends_of_trim_eq_self {word : List Char} (h : trim word = word) :
    (∀ c, word.head? = some c → isBlank c = false) ∧
      ∀ c, word.getLast? = some c → isBlank c = false := by
  obtain ⟨after, hafter, hlast, htrim⟩ := trimEnd_eq_iff.1 h
  refine ⟨fun c hc => ?_, hlast⟩
  obtain ⟨rest, hrest⟩ := List.head?_eq_some_iff.1 hc
  have hstart : trimStart word = c :: (rest ++ after) := by
    rw [htrim, hrest, List.cons_append]
  exact head_trimStart hstart

/-- What a tail names can be written. -/
lemma Tail.writable {text : List Char} {ref : ImportRef} (h : Tail text (some ref)) :
    ref.Writable := by
  cases h with
  | @file blanks path after more _ hpath _ hline _ =>
      rw [Writable, String.toList_ofList]
      refine ⟨fun hempty => hpath ?_, fun hmem => hline (List.mem_append_left _ hmem)⟩
      simpa using congrArg String.toList hempty
  | @word blanks word after more _ _ hfirst hlast _ hline hnofile _ =>
      rw [Writable, String.toList_ofList]
      refine ⟨fun hmem => hline (List.mem_append_left _ hmem), trim_eq_self hfirst hlast,
        fun inner rest heq => hnofile inner (rest ++ after) ?_⟩
      rw [heq, List.cons_append, List.append_assoc, List.cons_append]
  | blank =>
      refine ⟨List.not_mem_nil, rfl, fun inner rest heq => ?_⟩
      cases heq

/-- What is read off a line can be written. -/
lemma writable_of_importRef? {line : Line} {ref : ImportRef} (h : importRef? line = some ref) :
    ref.Writable := by
  obtain ⟨answer, hline⟩ := ImportLine.exists_answer line
  rw [hline.importRef?_eq] at h
  subst h
  cases hline with
  | keyword _ _ htail => exact htail.writable

/-- What can be written is the reference of a tail: a blank, and the reference as it is written. -/
lemma Writable.tail {ref : ImportRef} (h : ref.Writable) :
    Tail (' ' :: ref.toText.toList) (some ref) := by
  have hblanks : Blanks [' '] := by
    intro c hc
    rw [List.mem_singleton.1 hc]
    decide
  have hend : LineEnd [] := fun _ hc => by cases hc
  cases ref with
  | asset path =>
      obtain ⟨hpath, hline⟩ := h
      have hfile : Tail ([' '] ++ ('"' :: (path.toList ++ '"' :: []) ++ []))
          (some (.asset (String.ofList path.toList))) :=
        .file hblanks (by simpa using hpath) List.not_mem_nil (by simpa using hline) hend
      simpa [toText, String.ofList_toList] using hfile
  | custom name =>
      obtain ⟨hline, htrim, hunquoted⟩ := h
      by_cases hname : name = ""
      · subst hname
        exact .blank hblanks (List.mem_singleton_self ' ') (by decide)
      · obtain ⟨hfirst, hlast⟩ := ends_of_trim_eq_self htrim
        have hword : Tail ([' '] ++ (name.toList ++ [] ++ []))
            (some (.custom (String.ofList name.toList))) :=
          .word hblanks (by simpa using hname) hfirst hlast blanks_nil (by simpa using hline)
            (by simpa [Unquoted] using hunquoted) hend
        simpa [toText, String.ofList_toList] using hword

/-- What can be written is read off its own line. -/
lemma Writable.importRef?_lineOf {ref : ImportRef} (h : ref.Writable) :
    importRef? (lineOf ref.toText) = some ref := by
  rw [importRef?_lineOf_eq, h.tail.ofTail?_eq]

/-- A reference comes back from its line exactly if it can be written. -/
lemma importRef?_lineOf_toText_iff {ref : ImportRef} :
    importRef? (lineOf ref.toText) = some ref ↔ ref.Writable :=
  ⟨writable_of_importRef?, Writable.importRef?_lineOf⟩

end ImportRef

/-! ### Shaders stored under a name -/

/-- If nothing stood for a handle before, the import path of a shader that is stored under it is
what leads to it then. -/
lemma Library.resolve?_add_eq_some_iff {library : Library} {h : Handle} {shader found : Shader}
    (hnew : ∀ ref, library.imports.get? ref ≠ some h) {ref : ImportRef} :
    (library.add h shader).resolve? ref = some (h, found) ↔
      shader.importPath = some ref ∧ found = shader := by
  have himports : (library.add h shader).imports.get? ref = some h ↔
      shader.importPath = some ref := by
    cases hown : shader.importPath with
    | none => simpa [add, hown] using hnew ref
    | some own =>
        rw [add, hown]
        dsimp only
        rw [Table.get?_insert]
        split
        · next heq => simp [heq]
        · next hne => simpa [hne] using hnew ref
  have hstored : (library.add h shader).shaders.get? h = some shader := by
    rw [add, Table.get?_insert, if_pos rfl]
  rw [resolve?, Option.bind_eq_some_iff]
  constructor
  · rintro ⟨g, hg, hfound⟩
    obtain ⟨stored, hshader, heq⟩ := Option.map_eq_some_iff.1 hfound
    cases heq
    rw [hstored] at hshader
    cases hshader
    exact ⟨himports.1 hg, rfl⟩
  · rintro ⟨hpath, rfl⟩
    exact ⟨h, himports.2 hpath, by rw [hstored, Option.map_some]⟩

/-- **References that come back.** Whatever is read off a line is read again off the line that it is
written on. A path comes back from its line exactly if it is not empty and has no line feed, and a
name exactly if it has no line feed, no blank at either end, and no quote behind its second
character while it starts with one. These are the names under which a shader can be imported by
their lines: stored under a new handle and a name, it is what the line of the name leads to exactly
if the name is such. -/
theorem importRef?_lineOf_iff :
    (∀ line ref, importRef? line = some ref →
      importRef? (ImportRef.lineOf ref.toText) = some ref) ∧
    (∀ path, importRef? (ImportRef.lineOf (ImportRef.asset path).toText) = some (.asset path) ↔
      path ≠ "" ∧ '\n' ∉ path.toList) ∧
    (∀ name, importRef? (ImportRef.lineOf name) = some (.custom name) ↔
      '\n' ∉ name.toList ∧ trim name.toList = name.toList ∧ ImportRef.Unquoted name.toList) ∧
    ∀ (library : Library) (h : Handle) (shader : Shader) (name : String),
      (∀ ref, library.imports.get? ref ≠ some h) →
        ((importRef? (ImportRef.lineOf name)).bind
            (library.add h (shader.withImportPath (.custom name))).resolve? =
          some (h, shader.withImportPath (.custom name)) ↔
        '\n' ∉ name.toList ∧ trim name.toList = name.toList ∧
          ImportRef.Unquoted name.toList) := by
  have hback : ∀ line ref, importRef? line = some ref →
      importRef? (ImportRef.lineOf ref.toText) = some ref := fun line ref href =>
    (ImportRef.writable_of_importRef? href).importRef?_lineOf
  have hpath : ∀ path, importRef? (ImportRef.lineOf (ImportRef.asset path).toText) =
      some (.asset path) ↔ (ImportRef.asset path).Writable := fun _ =>
    ImportRef.importRef?_lineOf_toText_iff
  have hname : ∀ name, importRef? (ImportRef.lineOf (ImportRef.custom name).toText) =
      some (.custom name) ↔ (ImportRef.custom name).Writable := fun _ =>
    ImportRef.importRef?_lineOf_toText_iff
  refine ⟨hback, hpath, hname, fun library h shader name hnew => Iff.trans ?_ (hname name)⟩
  rw [Option.bind_eq_some_iff, ImportRef.toText]
  constructor
  · rintro ⟨ref, href, hresolve⟩
    obtain ⟨hpath, -⟩ := (Library.resolve?_add_eq_some_iff hnew).1 hresolve
    rw [href]
    exact hpath.symm
  · exact fun href => ⟨_, href, (Library.resolve?_add_eq_some_iff hnew).2 ⟨rfl, rfl⟩⟩

/-- A name with quotes inside is read off a line in between blanks and comes back, a name that looks
like a file does not, and a shader that is stored under the first one can be imported. -/
theorem lineOf_quotes :
    importRef? "  #\timport a\"b\"c \r".toList = some (.custom "a\"b\"c") ∧
    importRef? (ImportRef.lineOf "a\"b\"c") = some (.custom "a\"b\"c") ∧
    importRef? (ImportRef.lineOf "\"a\"") ≠ some (.custom "\"a\"") ∧
    (importRef? (ImportRef.lineOf "a\"b\"c")).bind
        (Library.empty.add ⟨0⟩ (Shader.withImportPath ⟨.text .wgsl "x", none⟩
          (.custom "a\"b\"c"))).resolve? =
      some (⟨0⟩, Shader.withImportPath ⟨.text .wgsl "x", none⟩ (.custom "a\"b\"c")) := by
  obtain ⟨hread, -, hname, hlibrary⟩ := importRef?_lineOf_iff
  have hline : importRef? "  #\timport a\"b\"c \r".toList = some (.custom "a\"b\"c") := rfl
  have hback : importRef? (ImportRef.lineOf "a\"b\"c") = some (.custom "a\"b\"c") :=
    hread _ (.custom "a\"b\"c") hline
  have hquoted : importRef? (ImportRef.lineOf "\"a\"") ≠ some (.custom "\"a\"") := by
    intro h
    obtain ⟨-, -, hunquoted⟩ := (hname "\"a\"").1 h
    cases hunquoted ['a'] [] rfl
  refine ⟨hline, hback, hquoted, ?_⟩
  exact (hlibrary .empty ⟨0⟩ ⟨.text .wgsl "x", none⟩ "a\"b\"c" (by simp [Library.empty])).2
    ((hname "a\"b\"c").1 hback)

end ShaderPreprocessor
