/-
The blocks of a text, read off its conditional lines without a stack of scopes.

* `nesting`: how many blocks more are opened than closed in a run of lines; `Unclosed` says that no
  beginning of the run closes more than it opens, and `Balanced` that the whole closes just as many;
* `placed`: the lines of a text, each with the lines before it;
* `elses`: the number of `#else` lines of a run that stand directly in it and not in a block of its
  own. `elses_append_block` says that a whole block adds none;
* `KeptAfter`: whether an ordinary line is kept after given lines. Every block that is open there
  counts by its condition, turned over once for each `#else` directly in it, and so does the text
  as a whole;
* `keptAfter_root`, `keptAfter_block`: a balanced run changes nothing but the innermost count, so
  that what is kept in a block is kept around it and agrees with the count of the block.
-/
import Mathlib.Algebra.Ring.Parity
import Mathlib.Tactic
import ShaderPreprocessor.Expansion

namespace ShaderPreprocessor

open Text

/-! ### Opening and closing -/

/-- What a line adds to the number of open blocks. -/
def level (line : Line) : ℤ :=
  match Directive.ofLine? line with
  | some (.ifdef _) => 1
  | some (.ifndef _) => 1
  | some .endif => -1
  | _ => 0

/-- How many blocks more are opened than closed in lines. -/
def nesting (lines : List Line) : ℤ := (lines.map level).sum

/-- The condition of the block that a line opens under a set of defined names. -/
def opening? (defs : List String) (line : Line) : Option Bool :=
  match Directive.ofLine? line with
  | some (.ifdef name) => some (defs.contains name)
  | some (.ifndef name) => some (!defs.contains name)
  | _ => none

/-- From `depth` open blocks on, no beginning of the lines closes a block that is not open. -/
def Unclosed (depth : ℤ) (lines : List Line) : Prop :=
  ∀ part, part <+: lines → 0 ≤ depth + nesting part

/-- Lines that close every block that they open and no other. -/
structure Balanced (lines : List Line) : Prop where
  /-- No block is closed that was opened before. -/
  unclosed : Unclosed 0 lines
  /-- No block is left open. -/
  settled : nesting lines = 0

@[simp] lemma nesting_nil : nesting [] = 0 := rfl

@[simp] lemma nesting_cons (line : Line) (ls : List Line) :
    nesting (line :: ls) = level line + nesting ls := by
  simp [nesting]

@[simp] lemma nesting_append (ls ls' : List Line) :
    nesting (ls ++ ls') = nesting ls + nesting ls' := by
  simp [nesting]

/-- A line that opens a block adds one to the nesting. -/
lemma level_of_opening {defs : List String} {line : Line} {condition : Bool}
    (h : opening? defs line = some condition) : level line = 1 := by
  unfold opening? at h
  unfold level
  split at h <;> simp_all

lemma Unclosed.nesting_nonneg {ls : List Line} {depth : ℤ} (h : Unclosed depth ls) :
    0 ≤ depth + nesting ls :=
  h ls (List.prefix_refl ls)

/-- What is unclosed is so up to any place in it. -/
lemma Unclosed.left {ls ls' : List Line} {depth : ℤ} (h : Unclosed depth (ls ++ ls')) :
    Unclosed depth ls :=
  fun part hpart => h part (hpart.trans (List.prefix_append ls ls'))

@[simp] lemma unclosed_nil {depth : ℤ} : Unclosed depth [] ↔ 0 ≤ depth := by
  constructor
  · intro h
    simpa using h.nesting_nonneg
  · intro h part hpart
    rw [List.prefix_nil.1 hpart]
    simpa using h

/-- Lines are unclosed if the first one finds a place to start from and the others go on from
there. -/
lemma unclosed_cons {line : Line} {ls : List Line} {depth : ℤ} :
    Unclosed depth (line :: ls) ↔ 0 ≤ depth ∧ Unclosed (depth + level line) ls := by
  constructor
  · intro h
    refine ⟨by simpa using h [] List.nil_prefix, fun part hpart => ?_⟩
    have := h (line :: part) ((List.prefix_cons_inj line).2 hpart)
    rw [nesting_cons] at this
    omega
  · rintro ⟨hd, h⟩ part hpart
    rcases List.prefix_cons_iff.1 hpart with rfl | ⟨rest, rfl, hrest⟩
    · simpa using hd
    · have := h rest hrest
      rw [nesting_cons]
      omega

/-- Lines and further lines are unclosed if both are, the second from where the first ends. -/
lemma unclosed_append {ls ls' : List Line} {depth : ℤ} :
    Unclosed depth (ls ++ ls') ↔ Unclosed depth ls ∧ Unclosed (depth + nesting ls) ls' := by
  induction ls generalizing depth with
  | nil =>
      simp only [List.nil_append, unclosed_nil, nesting_nil, add_zero]
      exact ⟨fun h => ⟨by simpa using h [] List.nil_prefix, h⟩, fun h => h.2⟩
  | cons line ls ih =>
      rw [List.cons_append, unclosed_cons, unclosed_cons, ih, nesting_cons, add_assoc, and_assoc]

lemma balanced_nil : Balanced [] := ⟨by simp, rfl⟩

/-- One balanced run after another is balanced. -/
lemma Balanced.append {ls ls' : List Line} (h : Balanced ls) (h' : Balanced ls') :
    Balanced (ls ++ ls') := by
  refine ⟨unclosed_append.2 ⟨h.unclosed, ?_⟩, ?_⟩
  · rw [h.settled, add_zero]
    exact h'.unclosed
  · rw [nesting_append, h.settled, h'.settled, add_zero]

/-- A line that neither opens nor closes a block is balanced by itself. -/
lemma balanced_singleton {line : Line} (h : level line = 0) : Balanced [line] :=
  ⟨unclosed_cons.2 ⟨le_rfl, by simp [h]⟩, by simp [h]⟩

/-- A balanced run between a line that opens a block and a line that closes one is balanced. -/
lemma Balanced.enclose {first last : Line} {inside : List Line} (h : Balanced inside)
    (hfirst : level first = 1) (hlast : level last = -1) :
    Balanced (first :: (inside ++ [last])) := by
  have hinside : Unclosed 1 inside := fun part hpart => by
    have := h.unclosed part hpart
    omega
  refine ⟨unclosed_cons.2 ⟨le_rfl, unclosed_append.2 ⟨by simpa [hfirst] using hinside, ?_⟩⟩, ?_⟩
  · rw [unclosed_cons, unclosed_nil, hfirst, hlast, h.settled]
    omega
  · rw [nesting_cons, nesting_append, nesting_cons, nesting_nil, hfirst, hlast, h.settled]
    omega

/-- After a line that opens a block in a balanced run, some beginning of the rest closes more than
it opens. -/
lemma Balanced.not_unclosed {front inside : List Line} {first : Line}
    (h : Balanced (front ++ first :: inside)) (hfirst : level first = 1) : ¬ Unclosed 0 inside := by
  intro hinside
  have hfront := h.unclosed.left.nesting_nonneg
  have hrest := hinside.nesting_nonneg
  have hsum := h.settled
  rw [nesting_append, nesting_cons, hfirst] at hsum
  omega

/-! ### Lines with what is before them -/

/-- Lines, each with the lines before it, from given lines on. -/
def placed : List Line → List Line → List (List Line × Line)
  | _, [] => []
  | before, line :: ls => (before, line) :: placed (before ++ [line]) ls

@[simp] lemma placed_nil (before : List Line) : placed before [] = [] := rfl

@[simp] lemma placed_cons (before : List Line) (line : Line) (ls : List Line) :
    placed before (line :: ls) = (before, line) :: placed (before ++ [line]) ls := rfl

lemma placed_append (before ls ls' : List Line) :
    placed before (ls ++ ls') = placed before ls ++ placed (before ++ ls) ls' := by
  induction ls generalizing before with
  | nil => simp
  | cons line ls ih => simp [ih, List.append_assoc]

/-- The number of `#else` lines directly in lines, outside the blocks that are opened there. -/
def elses (lines : List Line) : ℕ :=
  (placed [] lines).countP fun p =>
    nesting p.1 = 0 ∧ Directive.ofLine? p.2 = some .otherwise

@[simp] lemma elses_nil : elses [] = 0 := rfl

/-- A line more counts if it is an `#else` outside the blocks before it. -/
lemma elses_snoc (ls : List Line) (line : Line) :
    elses (ls ++ [line]) = elses ls +
      if nesting ls = 0 ∧ Directive.ofLine? line = some .otherwise then 1 else 0 := by
  simp [elses, placed_append, List.countP_append, List.countP_cons]

/-- A line that is no `#else` does not count. -/
lemma elses_snoc_of_ne (ls : List Line) {line : Line}
    (h : Directive.ofLine? line ≠ some .otherwise) : elses (ls ++ [line]) = elses ls := by
  simp [elses_snoc, h]

/-- Inside a block that is still open nothing counts for the lines around it. -/
lemma elses_append_open {front inside : List Line} {first : Line} (hfront : 0 ≤ nesting front)
    (hfirst : level first = 1) (hinside : Unclosed 0 inside) :
    elses (front ++ first :: inside) = elses front := by
  induction inside using List.reverseRecOn with
  | nil =>
      have hne : Directive.ofLine? first ≠ some .otherwise := fun h => by simp [level, h] at hfirst
      exact elses_snoc_of_ne front hne
  | append_singleton inside line ih =>
      have hdeep : nesting (front ++ first :: inside) ≠ 0 := by
        have := hinside.left.nesting_nonneg
        rw [nesting_append, nesting_cons, hfirst]
        omega
      rw [← List.cons_append, ← List.append_assoc, elses_snoc, ih hinside.left,
        if_neg fun h => hdeep h.1, add_zero]

/-- A whole block adds no `#else` to the lines that it stands in. -/
lemma elses_append_block {front inside : List Line} {first last : Line}
    (hfront : 0 ≤ nesting front) (hfirst : level first = 1) (hinside : Balanced inside)
    (hlast : level last = -1) : elses (front ++ first :: (inside ++ [last])) = elses front := by
  have hne : Directive.ofLine? last ≠ some .otherwise := fun h => by simp [level, h] at hlast
  rw [← List.cons_append, ← List.append_assoc, elses_snoc_of_ne _ hne]
  exact elses_append_open hfront hfirst hinside.unclosed

/-! ### Kept lines -/

/-- An ordinary line is kept after given lines if every block that is open there is kept by its
condition, turned over once for each `#else` directly in it, and the text as a whole is turned over
an even number of times. -/
def KeptAfter (defs : List String) (before : List Line) : Prop :=
  Even (elses before) ∧
    ∀ front first inside condition, before = front ++ first :: inside →
      opening? defs first = some condition → Unclosed 0 inside →
        (condition ^^ decide (Odd (elses inside))) = true

/-- Outside all blocks only the `#else` lines of the text as a whole count. -/
lemma keptAfter_root {defs : List String} {inside : List Line} (h : Balanced inside) :
    KeptAfter defs inside ↔ Even (elses inside) := by
  refine ⟨fun hkept => hkept.1, fun heven => ⟨heven, ?_⟩⟩
  rintro front first inside' condition rfl hfirst hopen
  exact absurd hopen (h.not_unclosed (level_of_opening hfirst))

/-- In a block lines are kept if they are kept around it and the count of the block agrees. -/
lemma keptAfter_block {defs : List String} {front inside : List Line} {first : Line}
    {condition : Bool} (hfront : Unclosed 0 front) (hfirst : opening? defs first = some condition)
    (hinside : Balanced inside) :
    KeptAfter defs (front ++ first :: inside) ↔
      KeptAfter defs front ∧ (condition ^^ decide (Odd (elses inside))) = true := by
  have hlevel := level_of_opening hfirst
  have hnonneg : 0 ≤ nesting front := by simpa using hfront.nesting_nonneg
  have helses := elses_append_open hnonneg hlevel hinside.unclosed
  constructor
  · rintro ⟨heven, hblocks⟩
    refine ⟨⟨helses ▸ heven, ?_⟩, hblocks front first inside condition rfl hfirst hinside.unclosed⟩
    rintro front' first' inside' condition' rfl hfirst' hopen
    have hopen' : Unclosed 0 (inside' ++ first :: inside) := by
      refine unclosed_append.2 ⟨hopen, unclosed_cons.2 ⟨hopen.nesting_nonneg, ?_⟩⟩
      intro part hpart
      have h1 := hinside.unclosed part hpart
      have h2 := hopen.nesting_nonneg
      omega
    have hcount := elses_append_open (by simpa using hopen.nesting_nonneg) hlevel
      hinside.unclosed
    rw [← hcount]
    exact hblocks front' first' _ condition' (by simp) hfirst' hopen'
  · rintro ⟨⟨heven, hblocks⟩, hown⟩
    refine ⟨helses.symm ▸ heven, ?_⟩
    intro front' first' inside' condition' heq hfirst' hopen
    -- the block that is read off the whole lies in `inside`, is the new one or began in `front`
    rcases List.append_eq_append_iff.1 heq with
      ⟨between, hfront', hrest⟩ | ⟨between, hfront', hrest⟩
    · cases between with
      | nil =>
          obtain ⟨rfl, rfl⟩ : first = first' ∧ inside = inside' := by simpa using hrest
          rw [hfirst] at hfirst'
          exact Option.some.inj hfirst' ▸ hown
      | cons line between =>
          obtain ⟨rfl, rfl⟩ : first = line ∧ inside = between ++ first' :: inside' := by
            simpa using hrest
          exact absurd hopen (hinside.not_unclosed (level_of_opening hfirst'))
    · cases between with
      | nil =>
          obtain ⟨rfl, rfl⟩ : first' = first ∧ inside' = inside := by simpa using hrest
          rw [hfirst] at hfirst'
          exact Option.some.inj hfirst' ▸ hown
      | cons line between =>
          obtain ⟨rfl, rfl⟩ : first' = line ∧ inside' = between ++ first :: inside := by
            simpa using hrest
          have hopen' := hopen.left
          rw [elses_append_open (by simpa using hopen'.nesting_nonneg) hlevel hinside.unclosed]
          exact hblocks front' first' between condition' hfront' hfirst' hopen'

end ShaderPreprocessor
