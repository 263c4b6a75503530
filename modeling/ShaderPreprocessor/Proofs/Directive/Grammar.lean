/-
The grammar of import lines.

    line    ::= blank* '#' blank* 'import' tail
    tail    ::= blank* '"' path '"' text end | blank* word blank* end | blank*

* `Text.Blanks`, `Text.LineEnd`: runs of blanks, and what may follow a line;
* `Directive.body?_eq_some_iff`: the body of a line stands behind its number sign and begins where
  the blanks after it end;
* `ImportRef.quoted?_eq_some_iff`: the name in a quoted word goes up to the last quote and is not
  empty;
* `ImportRef.Tail`, `ImportLine`: the grammar, each rule with the reference that it stands for;
* `Keyword.tail?_eq_some_iff`: what follows the keyword of a line stands behind the number sign and
  the keyword;
* `ImportRef.Tail.ofTail?_eq`, `ImportRef.exists_tail`: every tail is read by its rule, and there is
  a rule for every tail;
* `importRef?_eq_iff_importLine`: the reference of a line is that of the grammar.
-/
import Mathlib.Data.List.TakeWhile
import ShaderPreprocessor.Proofs.Directive.Extension

namespace ShaderPreprocessor

open Text

/-! ### Blanks and line ends -/

namespace Text

/-- A run of blanks. -/
def Blanks (text : List Char) : Prop := ∀ c ∈ text, isBlank c = true

/-- There may be no blanks. -/
lemma blanks_nil : Blanks [] := fun _ hc => absurd hc List.not_mem_nil

/-- What may follow a line: nothing, or a line feed and anything. -/
def LineEnd (text : List Char) : Prop := ∀ c, text.head? = some c → c = '\n'

/-- A text is blanks and what trimming its start leaves. -/
lemma exists_blanks_trimStart (text : List Char) :
    ∃ blanks, Blanks blanks ∧ text = blanks ++ trimStart text :=
  ⟨text.takeWhile isBlank, fun _ hc => List.mem_takeWhile_imp hc,
    List.takeWhile_append_dropWhile.symm⟩

/-- A text that does not start with a blank is not trimmed at its start. -/
lemma trimStart_eq_self {text : List Char} (h : ∀ c, text.head? = some c → isBlank c = false) :
    trimStart text = text := by
  cases text with
  | nil => rfl
  | cons c text => rw [trimStart_cons, h c rfl, if_neg Bool.false_ne_true]

/-- Trimming the start leaves what follows the blanks. -/
lemma trimStart_eq_iff {text rest : List Char} :
    trimStart text = rest ↔ ∃ blanks, Blanks blanks ∧
      (∀ c, rest.head? = some c → isBlank c = false) ∧ text = blanks ++ rest := by
  constructor
  · rintro rfl
    obtain ⟨blanks, hblanks, htext⟩ := exists_blanks_trimStart text
    refine ⟨blanks, hblanks, fun c hc => ?_, htext⟩
    obtain ⟨more, hmore⟩ := List.head?_eq_some_iff.1 hc
    exact head_trimStart hmore
  · rintro ⟨blanks, hblanks, hhead, rfl⟩
    rw [trimStart_append hblanks, trimStart_eq_self hhead]

lemma reverse_trimEnd (text : List Char) : (trimEnd text).reverse = trimStart text.reverse := by
  rw [trimEnd, List.reverse_reverse, trimStart]

/-- Trimming the end leaves what stands before the blanks. -/
lemma trimEnd_eq_iff {text rest : List Char} :
    trimEnd text = rest ↔ ∃ blanks, Blanks blanks ∧
      (∀ c, rest.getLast? = some c → isBlank c = false) ∧ text = rest ++ blanks := by
  rw [← List.reverse_inj, reverse_trimEnd, trimStart_eq_iff]
  simp only [List.head?_reverse]
  constructor
  · rintro ⟨blanks, hblanks, hlast, htext⟩
    refine ⟨blanks.reverse, fun c hc => hblanks c (List.mem_reverse.1 hc), hlast, ?_⟩
    rw [← List.reverse_inj, htext, List.reverse_append, List.reverse_reverse]
  · rintro ⟨blanks, hblanks, hlast, rfl⟩
    refine ⟨blanks.reverse, fun c hc => hblanks c (List.mem_reverse.1 hc), hlast, ?_⟩
    rw [List.reverse_append]

/-- Of a text, the characters of one kind are taken up to the first of another. -/
lemma takeWhile_append_of_stop {p : Char → Bool} {front rest : List Char}
    (hfront : ∀ c ∈ front, p c = true) (hrest : ∀ c, rest.head? = some c → p c = false) :
    (front ++ rest).takeWhile p = front := by
  rw [List.takeWhile_append_of_pos hfront]
  cases rest with
  | nil => simp
  | cons c rest => simp [hrest c rfl]

/-- A text is cut before its first line feed. -/
lemma takeWhile_line {line more : List Char} (hline : '\n' ∉ line) (hmore : LineEnd more) :
    (line ++ more).takeWhile (· ≠ '\n') = line :=
  takeWhile_append_of_stop (fun _ hc => decide_eq_true fun heq => hline (heq ▸ hc))
    fun c hc => by simp [hmore c hc]

/-- Behind the characters of one kind at the start of a text there is none, or one of another. -/
lemma exists_takeWhile_append (p : Char → Bool) (text : List Char) :
    ∃ rest, (∀ c, rest.head? = some c → p c = false) ∧ (∀ c ∈ text.takeWhile p, p c = true) ∧
      text = text.takeWhile p ++ rest := by
  refine ⟨text.dropWhile p, fun c hc => ?_, fun _ hc => List.mem_takeWhile_imp hc,
    List.takeWhile_append_dropWhile.symm⟩
  have hstop := List.head?_dropWhile_not p text
  rwa [hc] at hstop

/-- What stands before the first line feed of a text is a line, and the rest follows it. -/
lemma exists_line_end (text : List Char) :
    ∃ more, LineEnd more ∧ '\n' ∉ text.takeWhile (· ≠ '\n') ∧
      text = text.takeWhile (· ≠ '\n') ++ more := by
  obtain ⟨more, hmore, hline, htext⟩ := exists_takeWhile_append (fun c => decide (c ≠ '\n')) text
  exact ⟨more, fun c hc => by simpa using hmore c hc, fun hmem => by simpa using hline _ hmem,
    htext⟩

end Text

/-! ### Bodies of lines -/

namespace Directive

/-- The body of a line follows its number sign, with blanks before and after the sign. -/
lemma body?_eq_some_iff {line : Line} {body : List Char} :
    body? line = some body ↔ ∃ before between, Blanks before ∧ Blanks between ∧
      (∀ c, body.head? = some c → isBlank c = false) ∧
        line = before ++ '#' :: (between ++ body) := by
  simp only [body?, Option.map_eq_some_iff, after?_eq_some_iff, trimStart_eq_iff]
  constructor
  · rintro ⟨rest, ⟨before, hbefore, -, rfl⟩, between, hbetween, hhead, rfl⟩
    exact ⟨before, between, hbefore, hbetween, hhead, rfl⟩
  · rintro ⟨before, between, hbefore, hbetween, hhead, rfl⟩
    have hsign : ∀ c, (['#'] ++ (between ++ body)).head? = some c → isBlank c = false := by
      intro c hc
      cases hc
      decide
    exact ⟨between ++ body, ⟨before, hbefore, hsign, rfl⟩, between, hbetween, hhead, rfl⟩

end Directive

namespace Keyword

/-- No keyword begins with a blank. -/
lemma head_word {keyword : Keyword} {tail : List Char} {c : Char}
    (h : (keyword.word.toList ++ tail).head? = some c) : isBlank c = false := by
  cases keyword <;> (cases h; decide)

/-- What follows the keyword of a line stands behind the number sign and the keyword, with blanks
before each of them. -/
lemma tail?_eq_some_iff {keyword : Keyword} {line : Line} {tail : List Char} :
    keyword.tail? line = some tail ↔ ∃ before between, Blanks before ∧ Blanks between ∧
      line = before ++ '#' :: (between ++ (keyword.word.toList ++ tail)) := by
  simp only [tail?, Option.bind_eq_some_iff, Directive.after?_eq_some_iff,
    Directive.body?_eq_some_iff]
  constructor
  · rintro ⟨_, ⟨before, between, hbefore, hbetween, -, rfl⟩, rfl⟩
    exact ⟨before, between, hbefore, hbetween, rfl⟩
  · rintro ⟨before, between, hbefore, hbetween, rfl⟩
    exact ⟨_, ⟨before, between, hbefore, hbetween, fun _ => head_word, rfl⟩, rfl⟩

end Keyword

/-! ### The grammar -/

namespace ImportRef

/-- The name in a quoted word is what stands between its first and its last quote, if it is not
empty. -/
lemma quoted?_eq_some_iff {text path : List Char} :
    quoted? text = some path ↔
      path ≠ [] ∧ ∃ after, '"' ∉ after ∧ text = '"' :: (path ++ '"' :: after) := by
  unfold quoted?
  split
  · next rest =>
      simp only [Option.filter_eq_some_iff, Option.map_eq_some_iff, Prod.exists, exists_and_right,
        exists_eq_right, cutLast?_eq_some_iff, decide_eq_true_eq, List.cons.injEq, true_and]
      constructor
      · rintro ⟨⟨after, hrest, hlast⟩, hpath⟩
        exact ⟨hpath, after, hlast, hrest⟩
      · rintro ⟨hpath, after, hlast, hrest⟩
        exact ⟨⟨after, hrest, hlast⟩, hpath⟩
  · next hquote =>
      constructor
      · intro h
        cases h
      · rintro ⟨-, after, -, rfl⟩
        exact absurd rfl (hquote _)

/-- A word is no quoted one if no quote follows its first one, or the next character is one and no
other follows. -/
lemma quoted?_eq_none_iff {text : List Char} :
    quoted? text = none ↔ ∀ path after, text = '"' :: (path ++ '"' :: after) → path = [] := by
  constructor
  · rintro hnone path after rfl
    by_contra hpath
    -- the last quote leaves at least as much before it
    obtain ⟨⟨front, rest⟩, hcut⟩ : ∃ parts, cutLast? '"' (path ++ '"' :: after) = some parts := by
      refine Option.ne_none_iff_exists'.1 fun h => cutLast?_eq_none_iff.1 h ?_
      simp
    obtain ⟨heq, hlast⟩ := cutLast?_eq_some_iff.1 hcut
    have hfront : front ≠ [] := by
      rintro rfl
      obtain ⟨c, path, rfl⟩ := List.exists_cons_of_ne_nil hpath
      rw [List.cons_append, List.nil_append, List.cons.injEq] at heq
      exact hlast (heq.2 ▸ by simp)
    have hsome := quoted?_eq_some_iff.2 ⟨hfront, rest, hlast, congrArg ('"' :: ·) heq⟩
    rw [hnone] at hsome
    cases hsome
  · intro h
    refine Option.eq_none_iff_forall_ne_some.2 fun path hpath => ?_
    obtain ⟨hne, after, -, rfl⟩ := quoted?_eq_some_iff.1 hpath
    exact hne (h path after rfl)

/-- What may follow the keyword of an import line, and the reference that it names. -/
inductive Tail : List Char → Option ImportRef → Prop where
  /-- A file in quotes. The last quote of the line ends its path, whatever follows. -/
  | file {blanks path after more : List Char} (hblanks : Blanks blanks) (hpath : path ≠ [])
      (hlast : '"' ∉ after) (hline : '\n' ∉ path ++ '"' :: after) (hmore : LineEnd more) :
      Tail (blanks ++ ('"' :: (path ++ '"' :: after) ++ more)) (some (.asset (String.ofList path)))
  /-- Any other word, up to the last character of the line that is not blank. It is no file if it
  does not start with a quote, or if no quote stands behind its second character. -/
  | word {blanks word after more : List Char} (hblanks : Blanks blanks) (hword : word ≠ [])
      (hfirst : ∀ c, word.head? = some c → isBlank c = false)
      (hlast : ∀ c, word.getLast? = some c → isBlank c = false) (hafter : Blanks after)
      (hline : '\n' ∉ word ++ after)
      (hnofile : ∀ path rest, word ++ after = '"' :: (path ++ '"' :: rest) → path = [])
      (hmore : LineEnd more) :
      Tail (blanks ++ (word ++ after ++ more)) (some (.custom (String.ofList word)))
  /-- Blanks, other than line feeds alone. -/
  | blank {blanks : List Char} {c : Char} (hblanks : Blanks blanks) (hmem : c ∈ blanks)
      (hother : c ≠ '\n') : Tail blanks (some (.custom ""))
  /-- Nothing, or line feeds alone. -/
  | feeds {feeds : List Char} (hfeeds : ∀ c ∈ feeds, c = '\n') : Tail feeds none

/-- The first line of a text is what follows the blanks, up to the end of the line. -/
lemma firstLine_eq {blanks line more : List Char} (hblanks : Blanks blanks) (hne : line ≠ [])
    (hfirst : ∀ c, line.head? = some c → isBlank c = false) (hline : '\n' ∉ line)
    (hmore : LineEnd more) : firstLine (blanks ++ (line ++ more)) = line := by
  have hhead : ∀ c, (line ++ more).head? = some c → isBlank c = false := by
    intro c hc
    rw [List.head?_append_of_ne_nil _ hne] at hc
    exact hfirst c hc
  rw [firstLine, trimStart_append hblanks, trimStart_eq_self hhead, takeWhile_line hline hmore]

/-- Every tail is read by its rule. -/
lemma Tail.ofTail?_eq {text : List Char} {answer : Option ImportRef} (h : Tail text answer) :
    ofTail? text = answer := by
  cases h with
  | @file blanks path after more hblanks hpath hlast hline hmore =>
      have hfirst : firstLine (blanks ++ ('"' :: (path ++ '"' :: after) ++ more)) =
          '"' :: (path ++ '"' :: after) := by
        refine firstLine_eq hblanks (List.cons_ne_nil _ _) (fun c hc => ?_) (fun hmem => ?_) hmore
        · cases hc
          decide
        · rcases List.mem_cons.1 hmem with heq | hmem
          · exact absurd heq (by decide)
          · exact hline hmem
      rw [ofTail?, hfirst, quoted?_eq_some_iff.2 ⟨hpath, after, hlast, rfl⟩]
  | @word blanks word after more hblanks hword hstart hlast hafter hline hnofile hmore =>
      have hne : word ++ after ≠ [] := fun h => hword (List.append_eq_nil_iff.1 h).1
      have hhead : ∀ c, (word ++ after).head? = some c → isBlank c = false := by
        intro c hc
        rw [List.head?_append_of_ne_nil _ hword] at hc
        exact hstart c hc
      have hfirst := firstLine_eq hblanks hne hhead hline hmore
      have hother : (blanks ++ (word ++ after ++ more)).all (· = '\n') = false := by
        obtain ⟨c, rest, hc⟩ := List.exists_cons_of_ne_nil hword
        refine List.all_eq_false.2 ⟨c, by simp [hc], fun heq => ?_⟩
        have hfeed := hstart c (by simp [hc])
        rw [decide_eq_true_eq] at heq
        subst heq
        exact absurd hfeed (by decide)
      have htrim : trim (word ++ after) = word := by
        rw [trim, trimStart_eq_self hhead]
        exact trimEnd_eq_iff.2 ⟨after, hafter, hlast, rfl⟩
      rw [ofTail?, hfirst, quoted?_eq_none_iff.2 hnofile, hother]
      simp [htrim]
  | @blank _ c hblanks hmem hother =>
      have htrim : trimStart text = [] := trimStart_eq_iff.2 ⟨text, hblanks, by simp, by simp⟩
      have hall : text.all (· = '\n') = false :=
        List.all_eq_false.2 ⟨c, hmem, by simpa using hother⟩
      rw [ofTail?, firstLine, htrim, hall]
      rfl
  | feeds hfeeds => exact ofTail?_eq_none_iff.2 hfeeds

/-- There is a rule for every tail. -/
lemma exists_tail (text : List Char) : ∃ answer, Tail text answer := by
  obtain ⟨blanks, hblanks, htext⟩ := exists_blanks_trimStart text
  cases htrim : trimStart text with
  | nil =>
      rw [htrim, List.append_nil] at htext
      subst htext
      by_cases hfeeds : ∀ c ∈ text, c = '\n'
      · exact ⟨none, .feeds hfeeds⟩
      · push Not at hfeeds
        obtain ⟨c, hmem, hother⟩ := hfeeds
        exact ⟨_, .blank hblanks hmem hother⟩
  | cons c rest =>
      have hc := head_trimStart htrim
      obtain ⟨more, hmore, hline, hrest⟩ := exists_line_end (c :: rest)
      have hfeed : c ≠ '\n' := by
        rintro rfl
        exact absurd hc (by decide)
      rw [htrim, hrest, List.takeWhile_cons_of_pos (by simpa using hfeed)] at htext
      rw [List.takeWhile_cons_of_pos (by simpa using hfeed)] at hline
      generalize rest.takeWhile (· ≠ '\n') = line at hline htext
      subst htext
      cases hquoted : quoted? (c :: line) with
      | some path =>
          obtain ⟨hpath, after, hlast, heq⟩ := quoted?_eq_some_iff.1 hquoted
          rw [heq] at hline ⊢
          exact ⟨_, .file hblanks hpath hlast (fun hmem => hline (List.mem_cons_of_mem _ hmem))
            hmore⟩
      | none =>
          obtain ⟨after, hafter, hlast, heq⟩ := trimEnd_eq_iff.1 (rfl : trimEnd (c :: line) = _)
          have hword : trimEnd (c :: line) ≠ [] := fun hnil => by
            rw [hnil, List.nil_append] at heq
            rw [hafter c (heq ▸ List.mem_cons_self)] at hc
            cases hc
          generalize trimEnd (c :: line) = word at hlast heq hword
          have hhead : ∀ d, word.head? = some d → isBlank d = false := by
            intro d hd
            obtain ⟨word, rfl⟩ := List.head?_eq_some_iff.1 hd
            cases heq
            exact hc
          rw [heq] at hquoted hline ⊢
          exact ⟨_, .word hblanks hword hhead hlast hafter hline (quoted?_eq_none_iff.1 hquoted)
            hmore⟩

/-- The reference of a tail is that of its rule. -/
lemma ofTail?_eq_iff_tail {text : List Char} {answer : Option ImportRef} :
    ofTail? text = answer ↔ Tail text answer := by
  refine ⟨?_, Tail.ofTail?_eq⟩
  rintro rfl
  obtain ⟨answer, hanswer⟩ := exists_tail text
  rwa [hanswer.ofTail?_eq]

end ImportRef

/-- Import lines with the reference that they name, if any, and all other lines, which name none. -/
inductive ImportLine : Line → Option ImportRef → Prop where
  /-- A number sign and the keyword, with blanks before and between them, and a tail. -/
  | keyword {before between tail : List Char} {answer : Option ImportRef} (hbefore : Blanks before)
      (hbetween : Blanks between) (htail : ImportRef.Tail tail answer) :
      ImportLine (before ++ '#' :: (between ++ ("import".toList ++ tail))) answer
  /-- Anything else. -/
  | other {line : Line}
      (hother : ∀ before between tail, Blanks before → Blanks between →
        line ≠ before ++ '#' :: (between ++ ("import".toList ++ tail))) : ImportLine line none

/-- What is read off a line with the keyword is read off its tail. -/
lemma importRef?_keyword {before between : List Char} (hbefore : Blanks before)
    (hbetween : Blanks between) (tail : List Char) :
    importRef? (before ++ '#' :: (between ++ ("import".toList ++ tail))) =
      ImportRef.ofTail? tail := by
  have htail : Keyword.splice.tail? (before ++ '#' :: (between ++ ("import".toList ++ tail))) =
      some tail := Keyword.tail?_eq_some_iff.2 ⟨before, between, hbefore, hbetween, rfl⟩
  rw [Keyword.importRef?_eq, htail, Option.bind_some]

/-- A line that a reference is read off has the keyword. -/
lemma exists_keyword_of_importRef? {line : Line} {ref : ImportRef}
    (h : importRef? line = some ref) :
    ∃ before between tail, Blanks before ∧ Blanks between ∧
      line = before ++ '#' :: (between ++ ("import".toList ++ tail)) := by
  rw [Keyword.importRef?_eq] at h
  obtain ⟨tail, htail, -⟩ := Option.bind_eq_some_iff.1 h
  obtain ⟨before, between, hbefore, hbetween, hline⟩ := Keyword.tail?_eq_some_iff.1 htail
  exact ⟨before, between, tail, hbefore, hbetween, hline⟩

namespace ImportLine

variable {line : Line} {answer : Option ImportRef}

/-- Every line is read by its rule. -/
lemma importRef?_eq (h : ImportLine line answer) : importRef? line = answer := by
  cases h with
  | keyword hbefore hbetween htail =>
      rw [importRef?_keyword hbefore hbetween, htail.ofTail?_eq]
  | other hother =>
      refine Option.eq_none_iff_forall_ne_some.2 fun ref href => ?_
      obtain ⟨before, between, tail, hbefore, hbetween, heq⟩ := exists_keyword_of_importRef? href
      exact hother before between tail hbefore hbetween heq

/-- There is a rule for every line. -/
lemma exists_answer (line : Line) : ∃ answer, ImportLine line answer := by
  by_cases hkeyword : ∃ before between tail, Blanks before ∧ Blanks between ∧
      line = before ++ '#' :: (between ++ ("import".toList ++ tail))
  · obtain ⟨before, between, tail, hbefore, hbetween, rfl⟩ := hkeyword
    obtain ⟨answer, htail⟩ := ImportRef.exists_tail tail
    exact ⟨answer, .keyword hbefore hbetween htail⟩
  · exact ⟨none, .other fun before between tail hbefore hbetween heq =>
      hkeyword ⟨before, between, tail, hbefore, hbetween, heq⟩⟩

end ImportLine

/-- **The grammar of import lines.** Of every text, which may hold line feeds, the reference that is
read is the one that the grammar gives: a number sign and the keyword, each with any blanks before
it, are followed by a file in quotes, by a word, or by blanks. There is no reference if the keyword
is not found so, or if nothing but line feeds follows it. No path is empty, and neither paths nor
names hold line feeds. -/
theorem importRef?_eq_iff_importLine (line : Line) :
    (∀ answer, importRef? line = answer ↔ ImportLine line answer) ∧
    (∀ path, importRef? line = some (.asset path) → path ≠ "" ∧ '\n' ∉ path.toList) ∧
    (∀ name, importRef? line = some (.custom name) → '\n' ∉ name.toList) := by
  have hiff : ∀ answer, importRef? line = answer ↔ ImportLine line answer := by
    intro answer
    refine ⟨?_, ImportLine.importRef?_eq⟩
    rintro rfl
    obtain ⟨answer, hanswer⟩ := ImportLine.exists_answer line
    rwa [hanswer.importRef?_eq]
  refine ⟨hiff, fun path hpath => ?_, fun name hname => ?_⟩
  · cases (hiff _).1 hpath with
    | keyword _ _ htail =>
        cases htail with
        | file _ hne _ hline _ =>
            rw [String.toList_ofList]
            refine ⟨fun hempty => hne ?_, fun hmem => hline (List.mem_append_left _ hmem)⟩
            simpa using congrArg String.toList hempty
  · cases (hiff _).1 hname with
    | keyword _ _ htail =>
        cases htail with
        | word _ _ _ _ _ hline _ _ =>
            rw [String.toList_ofList]
            exact fun hmem => hline (List.mem_append_left _ hmem)
        | blank => simp

/-- A file behind a line feed whose path holds a quote, an empty pair of quotes, which is a name,
and two blank tails, of which only one names anything. -/
theorem importLine_corners :
    ImportLine "  # import \n \"a\"b\" c\nd".toList (some (.asset "a\"b")) ∧
    ImportLine "#import \"\"".toList (some (.custom "\"\"")) ∧
    ImportLine "#import\n \n".toList (some (.custom "")) ∧
    ImportLine "#import\n\n".toList none ∧
    "a\"b" ≠ "" ∧ '\n' ∉ "a\"b".toList ∧ '\n' ∉ "\"\"".toList := by
  have hfile : importRef? "  # import \n \"a\"b\" c\nd".toList = some (.asset "a\"b") := rfl
  have hword : importRef? "#import \"\"".toList = some (.custom "\"\"") := rfl
  have hblank : importRef? "#import\n \n".toList = some (.custom "") := rfl
  have hfeeds : importRef? "#import\n\n".toList = none := rfl
  obtain ⟨hfile', hpath, -⟩ := importRef?_eq_iff_importLine "  # import \n \"a\"b\" c\nd".toList
  obtain ⟨hword', -, hname⟩ := importRef?_eq_iff_importLine "#import \"\"".toList
  exact ⟨(hfile' _).1 hfile, (hword' _).1 hword, ((importRef?_eq_iff_importLine _).1 _).1 hblank,
    ((importRef?_eq_iff_importLine _).1 _).1 hfeeds, (hpath _ hfile).1, (hpath _ hfile).2,
    hname _ hword⟩

end ShaderPreprocessor
