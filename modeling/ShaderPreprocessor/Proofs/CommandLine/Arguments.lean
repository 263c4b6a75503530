/-
Command lines that are read as requests.

* `Request.exists_input`: the input of a request is a path that was read;
* `definitions`: switches that define names, each as a word of its own;
* `Request.ofArguments_definitions`: such switches and an input are read as the request that they
  ask for, if neither the names nor the input start with a dash.
-/
import Mathlib.Tactic
import ShaderPreprocessor.CommandLine.Request

namespace ShaderPreprocessor.CommandLine

/-- The input of a request is a path that was read. -/
lemma Request.exists_input {arguments : List String} {request : Request}
    (h : ofArguments arguments = .ok request) : ∃ text, request.input = .ofText text := by
  rw [ofArguments] at h
  split at h
  · cases h
  · split at h
    · cases h
    · next r _ =>
        rw [ofReading] at h
        split at h
        · cases h
        · next input _ =>
            split at h
            · cases h
              exact ⟨input, rfl⟩
            · cases h

/-! ### Definitions and an input -/

/-- A text does not start with a dash. -/
def Undashed (text : String) : Prop := text.toList.head? ≠ some '-'

/-- Such a text is a plain word. -/
lemma Undashed.ofText {text : String} (h : Undashed text) :
    Word.ofText text = .ok (.plain text) := by
  rw [Word.ofText]
  split
  · next heq => exact absurd (by rw [heq]; rfl) h
  · next heq => exact absurd (by rw [heq]; rfl) h
  · rfl

/-- It is not two dashes. -/
lemma Undashed.ne_separator {text : String} (h : Undashed text) : text ≠ "--" := by
  rintro rfl
  exact h rfl

/-- Switches that define names. -/
def definitions (names : List String) : List String := names.flatMap fun name => ["-D", name]

/-- They are switches with the next word as value, and the input is plain. -/
lemma words_definitions {names : List String} {input : String}
    (hnames : ∀ name ∈ names, Undashed name) (hinput : Undashed input) :
    words (definitions names ++ [input]) =
      .ok ((names.flatMap fun name => [.short .define none, .plain name]) ++ [.plain input]) := by
  induction names with
  | nil =>
      rw [definitions, List.flatMap_nil, List.nil_append, words, if_neg hinput.ne_separator,
        hinput.ofText]
      rfl
  | cons name names ih =>
      obtain ⟨hname, hrest⟩ := List.forall_mem_cons.1 hnames
      have hswitch : Word.ofText "-D" = .ok (.short .define none) := rfl
      have hstart : definitions (name :: names) ++ [input] =
          "-D" :: name :: (definitions names ++ [input]) := rfl
      rw [hstart, words, if_neg (by decide), hswitch, words, if_neg hname.ne_separator,
        hname.ofText, ih hrest]
      rfl

/-- Read one after another, they define the names and leave the input. -/
lemma readWords_definitions (names : List String) (input : String) {r : Reading}
    (hr : r.input = none) :
    ∃ atInput, readWords ((names.flatMap fun name => [.short .define none, .plain name]) ++
        [.plain input]) r =
      .ok { r with input := some input, defs := r.defs ++ names, atInput } := by
  induction names generalizing r with
  | nil =>
      refine ⟨true, ?_⟩
      rw [List.flatMap_nil, List.nil_append, readWords, readWords, Reading.plain, hr]
      simp
  | cons name names ih =>
      obtain ⟨atInput, hrest⟩ := @ih { r with defs := r.defs ++ [name], atInput := false } hr
      refine ⟨atInput, ?_⟩
      have hstep : ∀ rest, readWords (.short .define none :: .plain name :: rest) r =
          readWords rest { r with defs := r.defs ++ [name], atInput := false } := fun _ => rfl
      rw [List.flatMap_cons, List.append_assoc, List.cons_append, List.cons_append,
        List.nil_append, hstep, hrest, List.append_assoc, List.singleton_append]

/-- Definitions and an input are read as the request that they ask for. -/
lemma Request.ofArguments_definitions {names : List String} {input : String}
    (hnames : ∀ name ∈ names, Undashed name) (hinput : Undashed input) :
    ofArguments (definitions names ++ [input]) =
      .ok ⟨.ofText input, names, none, none, false⟩ := by
  obtain ⟨atInput, hread⟩ := readWords_definitions names input (r := {}) rfl
  rw [ofArguments, words_definitions hnames hinput]
  dsimp only
  rw [hread]
  rfl

end ShaderPreprocessor.CommandLine
