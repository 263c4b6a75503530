/-
The grammar of directive lines.

    line    ::= blank* '#' blank* keyword tail
    tail    ::= blank* name rest    behind 'ifdef' and 'ifndef'
              | rest                behind 'else' and 'endif'
              | reference           behind 'import'

No blank is needed between a keyword and its tail. A name is all of the word characters that stand
together.

* `Directive.Named`, `Directive.name?_eq_some_iff`: texts that begin with a name, and that it is
  this name that is found;
* `Keyword.Completes`, `DirectiveLine`: the grammar, with a rule for each keyword;
* `Keyword.test?_eq_some_iff`: the test for a keyword goes by its rule;
* `Keyword.test?_eq_iff_directiveLine`: the tests of a line exclude each other, are exact, and are
  passed whatever is written behind a line.
-/
import ShaderPreprocessor.Proofs.Directive.Grammar

namespace ShaderPreprocessor

open Text

/-! ### Names -/

namespace Directive

/-- Texts that begin with a name, behind any blanks. The name ends where no word character
follows. -/
inductive Named : List Char → String → Prop where
  | run {blanks name rest : List Char} (hblanks : Blanks blanks) (hname : name ≠ [])
      (hword : ∀ c ∈ name, isWord c = true) (hrest : ∀ c, rest.head? = some c → isWord c = false) :
      Named (blanks ++ (name ++ rest)) (String.ofList name)

/-- The name that is found is the one that a text begins with. -/
lemma name?_eq_some_iff {text : List Char} {name : String} :
    name? text = some name ↔ Named text name := by
  constructor
  · intro h
    obtain ⟨blanks, hblanks, htext⟩ := exists_blanks_trimStart text
    obtain ⟨rest, hrest, hword, htrim⟩ := exists_takeWhile_append isWord (trimStart text)
    unfold name? at h
    split at h
    · cases h
    · next c run hrun =>
        cases h
        rw [hrun] at hword htrim
        rw [htext, htrim]
        exact .run hblanks (List.cons_ne_nil c run) hword hrest
  · rintro ⟨hblanks, hname, hword, hrest⟩
    obtain ⟨c, run, rfl⟩ := List.exists_cons_of_ne_nil hname
    -- blanks end where the name begins, as none of its characters is one
    have hc : isBlank c = false := by
      by_contra hblank
      rw [Bool.not_eq_false] at hblank
      have hother := isWord_eq_false_of_isBlank hblank
      rw [hword c List.mem_cons_self] at hother
      cases hother
    rw [name?, trimStart_append hblanks, List.cons_append, trimStart_cons, hc,
      if_neg Bool.false_ne_true, ← List.cons_append, takeWhile_append_of_stop hword hrest]

end Directive

/-! ### The grammar -/

namespace Keyword

variable {k : Keyword} {tail : List Char} {d : Directive}

/-- What may follow a keyword, and the directive that it states with it. -/
inductive Completes : Keyword → List Char → Directive → Prop where
  /-- The name that the lines of a block are kept for. -/
  | ifdef {tail : List Char} {name : String} (hname : Directive.Named tail name) :
      Completes .ifdef tail (.ifdef name)
  /-- The name that the lines of a block are left out for. -/
  | ifndef {tail : List Char} {name : String} (hname : Directive.Named tail name) :
      Completes .ifndef tail (.ifndef name)
  /-- Anything, a longer word included. -/
  | otherwise {tail : List Char} : Completes .otherwise tail .otherwise
  /-- Anything, a longer word included. -/
  | endif {tail : List Char} : Completes .endif tail .endif
  /-- The reference of what is spliced in. -/
  | splice {tail : List Char} {ref : ImportRef} (href : ImportRef.Tail tail (some ref)) :
      Completes .splice tail (.splice ref)

/-- What a keyword states is read off its tail. -/
lemma complete?_eq_some_iff : k.complete? tail = some d ↔ k.Completes tail d := by
  constructor
  · intro h
    cases k with
    | ifdef =>
        obtain ⟨name, hname, rfl⟩ := Option.map_eq_some_iff.1 h
        exact .ifdef (Directive.name?_eq_some_iff.1 hname)
    | ifndef =>
        obtain ⟨name, hname, rfl⟩ := Option.map_eq_some_iff.1 h
        exact .ifndef (Directive.name?_eq_some_iff.1 hname)
    | otherwise =>
        cases h
        exact .otherwise
    | endif =>
        cases h
        exact .endif
    | splice =>
        obtain ⟨ref, href, rfl⟩ := Option.map_eq_some_iff.1 h
        exact .splice (ImportRef.ofTail?_eq_iff_tail.1 href)
  · intro h
    cases h with
    | ifdef hname => rw [complete?, Directive.name?_eq_some_iff.2 hname, Option.map_some]
    | ifndef hname => rw [complete?, Directive.name?_eq_some_iff.2 hname, Option.map_some]
    | otherwise => rfl
    | endif => rfl
    | splice href => rw [complete?, ImportRef.ofTail?_eq_iff_tail.2 href, Option.map_some]

end Keyword

/-- Lines of one keyword, with the directive that they state: a number sign and the keyword, with
blanks before each of them, and what the keyword states something with. -/
inductive DirectiveLine (k : Keyword) : Line → Directive → Prop where
  | keyword {before between tail : List Char} {d : Directive} (hbefore : Blanks before)
      (hbetween : Blanks between) (htail : k.Completes tail d) :
      DirectiveLine k (before ++ '#' :: (between ++ (k.word.toList ++ tail))) d

namespace Keyword

variable {k : Keyword} {line : Line} {d : Directive}

/-- The test for a keyword goes by its rule. -/
lemma test?_eq_some_iff : k.test? line = some d ↔ DirectiveLine k line d := by
  simp only [test?, Option.bind_eq_some_iff, tail?_eq_some_iff, complete?_eq_some_iff]
  constructor
  · rintro ⟨tail, ⟨before, between, hbefore, hbetween, rfl⟩, hd⟩
    exact .keyword hbefore hbetween hd
  · rintro ⟨hbefore, hbetween, hd⟩
    exact ⟨_, ⟨_, _, hbefore, hbetween, rfl⟩, hd⟩

/-- **Five tests that exclude each other.** Of every line, which may hold line feeds, the test for a
keyword finds the directive that the rule of the keyword gives, and none if it gives none. A line
states what one of the rules gives, and references are read off the lines of the rule for imports.
At most one of the five tests accepts a line, so that the order in which they are tried makes no
difference to what it states. A test that accepts a line goes on to accept it, whatever is written
behind it. -/
theorem test?_eq_iff_directiveLine :
    (∀ (k : Keyword) (line : Line) (d : Directive),
      k.test? line = some d ↔ DirectiveLine k line d) ∧
    (∀ (line : Line) (d : Directive),
      Directive.ofLine? line = some d ↔ ∃ k, DirectiveLine k line d) ∧
    (∀ (line : Line) (ref : ImportRef),
      importRef? line = some ref ↔ DirectiveLine splice line (.splice ref)) ∧
    (∀ (k k' : Keyword) (line : Line),
      (k.test? line).isSome = true → (k'.test? line).isSome = true → k = k') ∧
    (∀ order : List Keyword, (∀ k, k ∈ order) →
      (fun line => order.findSome? (test? · line)) = Directive.ofLine?) ∧
    ∀ (k : Keyword) (line more : Line),
      (k.test? line).isSome = true → (k.test? (line ++ more)).isSome = true := by
  refine ⟨fun _ _ _ => test?_eq_some_iff, fun line d => ?_, fun line ref => ?_,
    fun k k' line h h' => ?_, fun order => findSome?_test?, fun k line more h => ?_⟩
  · simp only [← exists_test?_iff, test?_eq_some_iff]
  · rw [← test?_eq_some_iff, test?_eq_splice_iff]
    exact (and_iff_right rfl).symm
  · obtain ⟨d, hd⟩ := Option.isSome_iff_exists.1 h
    obtain ⟨d', hd'⟩ := Option.isSome_iff_exists.1 h'
    exact unique hd hd'
  · obtain ⟨d, hd⟩ := Option.isSome_iff_exists.1 h
    exact Option.isSome_iff_exists.2 (exists_test?_append hd more)

/-- A line that goes on from its keyword as if with another one, and with what looks like a whole
directive behind it. -/
theorem test?_of_three_keywords :
    DirectiveLine otherwise "\t# elseifdef A #endif".toList .otherwise ∧
    Directive.ofLine? "\t# elseifdef A #endif".toList = some .otherwise ∧
    importRef? "\t# elseifdef A #endif".toList = none ∧
    ifdef.test? "\t# elseifdef A #endif".toList = none ∧
    all.reverse.findSome? (test? · "\t# elseifdef A #endif".toList) = some .otherwise ∧
    (otherwise.test? ("\t# elseifdef A #endif".toList ++ "#import b".toList)).isSome = true := by
  obtain ⟨hrule, hstates, himport, hunique, horder, hmore⟩ := test?_eq_iff_directiveLine
  have htest : otherwise.test? "\t# elseifdef A #endif".toList = some .otherwise := by
    decide +kernel
  have hline : DirectiveLine otherwise "\t# elseifdef A #endif".toList .otherwise :=
    (hrule _ _ _).1 htest
  have hread : Directive.ofLine? "\t# elseifdef A #endif".toList = some .otherwise :=
    (hstates _ _).2 ⟨otherwise, hline⟩
  have hsome : (otherwise.test? "\t# elseifdef A #endif".toList).isSome = true := by
    rw [htest, Option.isSome_some]
  have hothers : ∀ k : Keyword, k ≠ otherwise → k.test? "\t# elseifdef A #endif".toList = none :=
    fun k hk => Option.not_isSome_iff_eq_none.1 fun h => hk (hunique k otherwise _ h hsome)
  refine ⟨hline, hread, ?_, hothers _ (by decide), ?_, hmore _ _ _ hsome⟩
  · refine Option.eq_none_iff_forall_ne_some.2 fun ref href => ?_
    have hsplice := (hrule _ _ _).2 ((himport _ ref).1 href)
    rw [hothers splice (by decide)] at hsplice
    cases hsplice
  · have hreverse := horder all.reverse fun k => List.mem_reverse.2 (mem_all k)
    exact (congrFun hreverse _).trans hread

end Keyword

end ShaderPreprocessor
