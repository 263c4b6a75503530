/-
Directives of lines that go on. What makes a line a directive stands at its start, so that it stays
one whatever follows.

* `trimStart_append_of_ne_nil`, `Directive.after?_append`: blanks and a keyword at the start of a
  text are found whatever follows;
* `ImportRef.ofTail?_eq_none_iff`: only line feeds name no import;
* `Keyword.exists_test?_append`: a line that a test accepts is accepted by the same test whatever
  follows;
* `Directive.ofLine?_eq_none_of_append`: the beginning of an ordinary line is ordinary.
-/
import ShaderPreprocessor.Proofs.Directive.Keywords

namespace ShaderPreprocessor

open Text

/-- Where a text does not consist of blanks, what follows it does not matter to the blanks at its
start. -/
lemma Text.trimStart_append_of_ne_nil {text : List Char} (h : trimStart text ≠ [])
    (more : List Char) : trimStart (text ++ more) = trimStart text ++ more := by
  have hempty : ¬ (text.dropWhile isBlank).isEmpty = true := by
    rw [List.isEmpty_iff]
    exact h
  rw [trimStart, List.dropWhile_append, if_neg hempty, ← trimStart]

/-! ### References -/

namespace ImportRef

/-- A quoted word starts with a quote. -/
lemma quote_mem_of_quoted {text path : List Char} (h : quoted? text = some path) : '"' ∈ text := by
  unfold quoted? at h
  split at h
  · exact List.mem_cons_self
  · cases h

/-- The first line of a text is part of it. -/
lemma firstLine_subset (text : List Char) : firstLine text ⊆ text := fun _ hc =>
  (List.dropWhile_suffix _).subset ((List.takeWhile_prefix _).subset hc)

/-- Only line feeds name no import. -/
lemma ofTail?_eq_none_iff {text : List Char} : ofTail? text = none ↔ ∀ c ∈ text, c = '\n' := by
  unfold ofTail?
  split
  · next path hpath =>
      have hquote := firstLine_subset text (quote_mem_of_quoted hpath)
      exact ⟨fun h => (by cases h), fun h => absurd (h _ hquote) (by decide)⟩
  · split
    · next hall => simpa using hall
    · next hall => simpa using hall

/-- A reference is found, perhaps another one, whatever follows. -/
lemma exists_ofTail?_append {text : List Char} {ref : ImportRef} (h : ofTail? text = some ref)
    (more : List Char) : ∃ ref', ofTail? (text ++ more) = some ref' := by
  refine Option.ne_none_iff_exists'.1 fun hnone => ?_
  rw [ofTail?_eq_none_iff] at hnone
  rw [ofTail?_eq_none_iff.2 fun c hc => hnone c (List.mem_append_left more hc)] at h
  cases h

end ImportRef

/-! ### Directives -/

namespace Directive

/-- A keyword is found whatever follows. -/
lemma after?_append {keyword text rest : List Char} (h : after? keyword text = some rest)
    (more : List Char) : after? keyword (text ++ more) = some (rest ++ more) := by
  rw [after?_eq_some_iff] at h ⊢
  rw [h, List.append_assoc]

/-- A body that is not empty goes on with the line. -/
lemma body?_append {line : Line} {body : List Char} (h : body? line = some body) (hne : body ≠ [])
    (more : List Char) : body? (line ++ more) = some (body ++ more) := by
  obtain ⟨rest, hrest, rfl⟩ := Option.map_eq_some_iff.1 h
  have hsign : trimStart line ≠ [] := fun hnil => by
    rw [hnil] at hrest
    cases hrest
  rw [body?, trimStart_append_of_ne_nil hsign, after?_append hrest, Option.map_some,
    trimStart_append_of_ne_nil hne]

/-- A name is found where a word starts. -/
lemma exists_name?_iff {text : List Char} :
    (∃ name, name? text = some name) ↔ ∃ c rest, trimStart text = c :: rest ∧ isWord c = true := by
  unfold name?
  cases trimStart text with
  | nil => simp
  | cons c rest => cases hc : isWord c <;> simp [hc]

/-- A name is found, perhaps a longer one, whatever follows. -/
lemma exists_name?_append {text : List Char} {name : String} (h : name? text = some name)
    (more : List Char) : ∃ name', name? (text ++ more) = some name' := by
  obtain ⟨c, word, hword, hc⟩ := exists_name?_iff.1 ⟨name, h⟩
  have hne : trimStart text ≠ [] := by simp [hword]
  exact exists_name?_iff.2
    ⟨c, word ++ more, by rw [trimStart_append_of_ne_nil hne more, hword, List.cons_append], hc⟩

end Directive

/-! ### Tests of lines -/

namespace Keyword

variable {k : Keyword} {line : Line} {d : Directive}

/-- A keyword is found in a line whatever follows, and what follows it goes on with the line. -/
lemma tail?_append {tail : List Char} (h : k.tail? line = some tail) (more : List Char) :
    k.tail? (line ++ more) = some (tail ++ more) := by
  obtain ⟨body, hbody, htail⟩ := Option.bind_eq_some_iff.1 h
  have hne : body ≠ [] := by
    rintro rfl
    cases k <;> cases htail
  rw [tail?, Directive.body?_append hbody hne, Option.bind_some,
    Directive.after?_append htail]

/-- What states a directive with a keyword states one, perhaps another, whatever follows. -/
lemma exists_complete?_append {tail : List Char} (h : k.complete? tail = some d)
    (more : List Char) : ∃ d', k.complete? (tail ++ more) = some d' := by
  cases k with
  | ifdef =>
      obtain ⟨name, hname, -⟩ := Option.map_eq_some_iff.1 h
      obtain ⟨name', hname'⟩ := Directive.exists_name?_append hname more
      exact ⟨_, Option.map_eq_some_iff.2 ⟨name', hname', rfl⟩⟩
  | ifndef =>
      obtain ⟨name, hname, -⟩ := Option.map_eq_some_iff.1 h
      obtain ⟨name', hname'⟩ := Directive.exists_name?_append hname more
      exact ⟨_, Option.map_eq_some_iff.2 ⟨name', hname', rfl⟩⟩
  | otherwise => exact ⟨_, rfl⟩
  | endif => exact ⟨_, rfl⟩
  | splice =>
      obtain ⟨ref, href, -⟩ := Option.map_eq_some_iff.1 h
      obtain ⟨ref', href'⟩ := ImportRef.exists_ofTail?_append href more
      exact ⟨_, Option.map_eq_some_iff.2 ⟨ref', href', rfl⟩⟩

/-- A line that a test accepts is accepted by the same test whatever follows. -/
lemma exists_test?_append (h : k.test? line = some d) (more : List Char) :
    ∃ d', k.test? (line ++ more) = some d' := by
  obtain ⟨tail, htail, hd⟩ := Option.bind_eq_some_iff.1 h
  obtain ⟨d', hd'⟩ := exists_complete?_append hd more
  exact ⟨d', Option.bind_eq_some_iff.2 ⟨_, tail?_append htail more, hd'⟩⟩

end Keyword

/-- The beginning of an ordinary line is ordinary. -/
lemma Directive.ofLine?_eq_none_of_append {line more : Line}
    (h : ofLine? (line ++ more) = none) : ofLine? line = none := by
  refine Option.eq_none_iff_forall_ne_some.2 fun d hd => ?_
  obtain ⟨k, hk⟩ := Keyword.exists_test?_iff.2 hd
  obtain ⟨d', hd'⟩ := Keyword.exists_test?_append hk more
  rw [Keyword.exists_test?_iff.1 ⟨k, hd'⟩] at h
  cases h

end ShaderPreprocessor
