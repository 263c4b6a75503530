/-
The keywords of directives, each tested for by itself. A line is read by five tests, one after
another. Which of them comes first does not matter, as no keyword is the beginning of another.

* `Keyword.test?`: the test of a line for one keyword;
* `Keyword.eq_of_isPrefix`, `Keyword.unique`: no keyword begins with another, so that at most one
  of the tests accepts a line;
* `Keyword.exists_test?_iff`: the directive of a line is the one that a test finds;
* `Keyword.findSome?_test?`: it is found in whatever order the tests are tried.
-/
import Mathlib.Tactic
import ShaderPreprocessor.Directive

namespace ShaderPreprocessor

open Text

/-- The keywords of the directives. -/
inductive Keyword where
  | ifdef
  | ifndef
  | otherwise
  | endif
  | splice
  deriving DecidableEq, Repr

namespace Keyword

/-- The keyword as it is written. -/
def word : Keyword → String
  | ifdef => "ifdef"
  | ifndef => "ifndef"
  | otherwise => "else"
  | endif => "endif"
  | splice => "import"

/-- The keywords, in the order in which a line is tested for them. -/
def all : List Keyword := [ifdef, ifndef, otherwise, endif, splice]

/-- What follows the keyword in a line that has it. -/
def tail? (keyword : Keyword) (line : Line) : Option (List Char) :=
  (Directive.body? line).bind (Directive.after? keyword.word.toList)

/-- The directive that the keyword states with the text that follows it. -/
def complete? : Keyword → List Char → Option Directive
  | ifdef, tail => (Directive.name? tail).map .ifdef
  | ifndef, tail => (Directive.name? tail).map .ifndef
  | otherwise, _ => some .otherwise
  | endif, _ => some .endif
  | splice, tail => (ImportRef.ofTail? tail).map .splice

/-- The test of a line for the keyword: the directive that the line states with it, if it is
accepted. No other keyword is looked for. -/
def test? (keyword : Keyword) (line : Line) : Option Directive :=
  (keyword.tail? line).bind keyword.complete?

variable {k k' : Keyword} {line : Line} {d d' : Directive}

/-! ### At most one test accepts a line -/

/-- There are no other keywords. -/
lemma mem_all (k : Keyword) : k ∈ all := by cases k <;> decide

/-- No keyword is the beginning of another. -/
lemma eq_of_isPrefix (h : k.word.toList <+: k'.word.toList) : k = k' := by
  have hall : ∀ k ∈ all, ∀ k' ∈ all, k.word.toList <+: k'.word.toList → k = k' := by decide
  exact hall k (mem_all k) k' (mem_all k') h

/-- A line has one keyword at most. -/
lemma unique_of_tail? {tail tail' : List Char} (h : k.tail? line = some tail)
    (h' : k'.tail? line = some tail') : k = k' := by
  obtain ⟨body, hbody, hafter⟩ := Option.bind_eq_some_iff.1 h
  obtain ⟨body', hbody', hafter'⟩ := Option.bind_eq_some_iff.1 h'
  rw [hbody] at hbody'
  cases hbody'
  have hfirst : k.word.toList <+: body := ⟨tail, (Directive.after?_eq_some_iff.1 hafter).symm⟩
  have hsecond : k'.word.toList <+: body := ⟨tail', (Directive.after?_eq_some_iff.1 hafter').symm⟩
  rcases List.prefix_or_prefix_of_prefix hfirst hsecond with hle | hle
  · exact eq_of_isPrefix hle
  · exact (eq_of_isPrefix hle).symm

/-- At most one of the tests accepts a line. -/
lemma unique (h : k.test? line = some d) (h' : k'.test? line = some d') : k = k' := by
  obtain ⟨tail, htail, -⟩ := Option.bind_eq_some_iff.1 h
  obtain ⟨tail', htail', -⟩ := Option.bind_eq_some_iff.1 h'
  exact unique_of_tail? htail htail'

/-! ### The order of the tests -/

/-- A line is tested for the keywords one after another. -/
lemma ofLine?_eq_findSome? (line : Line) :
    Directive.ofLine? line = all.findSome? (test? · line) := by
  cases hbody : Directive.body? line with
  | none => simp [Directive.ofLine?, all, test?, tail?, hbody]
  | some body =>
      have htest : ∀ k : Keyword,
          k.test? line = (Directive.after? k.word.toList body).bind k.complete? := fun k => by
        rw [test?, tail?, hbody, Option.bind_some]
      have hifdef : ifdef.test? line = (Directive.condition? "ifdef" body).map .ifdef :=
        (htest ifdef).trans Option.map_bind.symm
      have hifndef : ifndef.test? line = (Directive.condition? "ifndef" body).map .ifndef :=
        (htest ifndef).trans Option.map_bind.symm
      have helse : otherwise.test? line =
          (Directive.after? "else".toList body).bind fun _ => some .otherwise := htest otherwise
      have hendif : endif.test? line =
          (Directive.after? "endif".toList body).bind fun _ => some .endif := htest endif
      have hsplice : splice.test? line = (Directive.reference? body).map .splice :=
        (htest splice).trans Option.map_bind.symm
      rw [Directive.ofLine?, hbody, Option.bind_some, Directive.ofBody?]
      simp only [all, List.findSome?_cons, List.findSome?_nil, hifdef, hifndef, helse, hendif,
        hsplice]
      cases Directive.condition? "ifdef" body with
      | some name => rfl
      | none =>
          cases Directive.condition? "ifndef" body with
          | some name => rfl
          | none =>
              cases Directive.after? "else".toList body with
              | some tail => rfl
              | none =>
                  cases Directive.after? "endif".toList body with
                  | some tail => rfl
                  | none => cases Directive.reference? body <;> rfl

/-- Tests of which at most one accepts find the same in whatever order they are tried, as long as
none is left out. -/
lemma findSome?_eq_some_iff {order : List Keyword} (horder : ∀ k, k ∈ order) :
    order.findSome? (test? · line) = some d ↔ ∃ k : Keyword, k.test? line = some d := by
  constructor
  · intro h
    obtain ⟨k, -, hk⟩ := List.exists_of_findSome?_eq_some h
    exact ⟨k, hk⟩
  · rintro ⟨k, hk⟩
    have hsome : (order.findSome? (test? · line)).isSome = true :=
      List.findSome?_isSome_iff.2 ⟨k, horder k, by rw [hk, Option.isSome_some]⟩
    obtain ⟨d', hd'⟩ := Option.isSome_iff_exists.1 hsome
    obtain ⟨k', -, hk'⟩ := List.exists_of_findSome?_eq_some hd'
    rw [unique hk' hk, hk] at hk'
    rw [hd', hk']

/-- The directive of a line is the one that a test finds. -/
lemma exists_test?_iff : (∃ k : Keyword, k.test? line = some d) ↔ Directive.ofLine? line = some d := by
  rw [ofLine?_eq_findSome?, findSome?_eq_some_iff mem_all]

/-- It is found in whatever order the tests are tried. -/
lemma findSome?_test? {order : List Keyword} (horder : ∀ k, k ∈ order) :
    (fun line => order.findSome? (test? · line)) = Directive.ofLine? := by
  funext line
  refine Option.ext fun d => ?_
  rw [findSome?_eq_some_iff horder, exists_test?_iff]

/-! ### The test for imports -/

/-- A reference follows the keyword of imports. -/
lemma importRef?_eq (line : Line) : importRef? line = (splice.tail? line).bind ImportRef.ofTail? :=
  (Option.bind_assoc _ _ _).symm

/-- Nothing but an import states a reference. -/
lemma complete?_eq_splice_iff {tail : List Char} {ref : ImportRef} :
    k.complete? tail = some (.splice ref) ↔ k = splice ∧ ImportRef.ofTail? tail = some ref := by
  cases k <;> simp [complete?]

/-- The references of a text are read off its lines by the test for imports. -/
lemma test?_eq_splice_iff {ref : ImportRef} :
    k.test? line = some (.splice ref) ↔ k = splice ∧ importRef? line = some ref := by
  simp only [test?, importRef?_eq, Option.bind_eq_some_iff, complete?_eq_splice_iff]
  constructor
  · rintro ⟨tail, htail, rfl, href⟩
    exact ⟨rfl, tail, htail, href⟩
  · rintro ⟨rfl, tail, htail, href⟩
    exact ⟨tail, htail, rfl, href⟩

end Keyword

end ShaderPreprocessor
