/-
When the programs of a compiler are released.

* `Compiler.Step.Makes`: a step makes a program;
* `Compiler.Step.Becomes`: a step releases programs, or fails, or makes one. `Compiler.Step.becomes`
  says that this is all that a step does for programs;
* `Compiler.getElem?_foldl_modify`: counts after one more was counted at each of some places;
* `Compiler.Tracks`: every program made is either released once or kept once. `Compiler.Tracks.next`
  says that a step keeps this, and `Compiler.tracks_after` that a run does;
* `Compiler.released_after`: what a run releases of the programs made before it;
* `Compiler.released_once`: how often each program was released after a run.
-/
import ShaderPreprocessor.Proofs.Compiler.Sources

namespace ShaderPreprocessor.Compiler

/-! ### What a step does for programs -/

namespace Step

/-- A step makes a program: its shaders are right, and the device does not refuse them. -/
def Makes (step : Step) : Prop := ∃ call, step.action.Hands call ∧ step.device call = none

instance : DecidablePred Makes := fun step =>
  decidable_of_iff (∃ call ∈ step.action.call?, step.device call = none)
    (exists_congr fun _ => and_congr_left' Action.call?_eq_some_iff)

/-- What a step of a compiler does for programs. -/
inductive Becomes (step : Step) (c : Compiler) : Prop where
  /-- All programs that are kept are released. -/
  | releases (haction : step.action = .release) (hmakes : ¬ step.Makes)
      (hnext : c.next step = c.release) (hanswer : c.answer step = .ok none)
  /-- A shader is wrong, or the device refuses. -/
  | fails {e : CompileError} (haction : step.action ≠ .release) (hmakes : ¬ step.Makes)
      (hreleased : (c.next step).released = c.released) (hkept : (c.next step).kept = c.kept)
      (hanswer : c.answer step = .error e)
  /-- A program is made and kept. -/
  | makes {call : DeviceCall} (haction : step.action ≠ .release) (hmakes : step.Makes)
      (hreleased : (c.next step).released = c.released ++ [0])
      (hkept : (c.next step).kept = c.kept ++ [c.released.length])
      (hanswer : c.answer step = .ok (some call))

/-- This is all that a step does for programs. -/
lemma becomes (step : Step) (c : Compiler) : step.Becomes c := by
  obtain hrelease | ⟨e, hrejects⟩ | ⟨call, hhands⟩ := step.action.trichotomy
  · refine .releases hrelease ?_ (by rw [next, hrelease]; rfl) (by rw [answer, hrelease]; rfl)
    rintro ⟨call, hhands, -⟩
    exact hhands.ne_release hrelease
  · obtain ⟨hstate, hanswer⟩ := act_of_rejects hrejects step.device c
    refine .fails hrejects.ne_release ?_ (congrArg released hstate) (congrArg kept hstate) hanswer
    rintro ⟨call, hhands, -⟩
    exact hrejects.not_hands call hhands
  · cases hdevice : step.device call with
    | none =>
        obtain ⟨hstate, hanswer⟩ := act_of_made hhands hdevice c
        exact .makes hhands.ne_release ⟨call, hhands, hdevice⟩ (congrArg released hstate)
          (congrArg kept hstate) hanswer
    | some message =>
        obtain ⟨hstate, hanswer⟩ := act_of_refused hhands hdevice c
        refine .fails hhands.ne_release ?_ (by rw [next, hstate]) (by rw [next, hstate]) hanswer
        rintro ⟨other, hother, hnone⟩
        rw [← hhands.unique hother, hdevice] at hnone
        cases hnone

end Step

/-! ### Counting -/

section Counting

variable (places counts : List ℕ)

/-- If one more is counted at each of some places, a count grows by as many of them as are its
place. -/
lemma getElem?_foldl_modify (i : ℕ) :
    (places.foldl (fun counts place => counts.modify place (· + 1)) counts)[i]? =
      counts[i]?.map (· + places.count i) := by
  induction places generalizing counts with
  | nil => simp
  | cons place places ih =>
      rw [List.foldl_cons, ih, List.getElem?_modify, List.count_cons]
      by_cases hplace : place = i
      · cases counts[i]? <;> simp [hplace, Nat.add_right_comm, Nat.add_assoc]
      · simp [hplace]

lemma length_foldl_modify :
    (places.foldl (fun counts place => counts.modify place (· + 1)) counts).length =
      counts.length := by
  induction places generalizing counts with
  | nil => rfl
  | cons place places ih => rw [List.foldl_cons, ih, List.length_modify]

end Counting

/-! ### The programs that are kept -/

/-- Every program made is released once and not kept, or not released and kept once. Nothing else
is kept. -/
structure Tracks (c : Compiler) : Prop where
  /-- As often as a program was released and as it is kept, is once. -/
  once : ∀ i n, c.released[i]? = some n → n + c.kept.count i = 1
  /-- What is kept was made. -/
  kept_lt : ∀ i ∈ c.kept, i < c.released.length

namespace Tracks

variable {c c' : Compiler}

lemma new : new.Tracks where
  once _ _ h := nomatch h
  kept_lt _ h := nomatch h

/-- What is kept is what was made and not released. -/
lemma mem_kept_iff (h : c.Tracks) (i : ℕ) : i ∈ c.kept ↔ c.released[i]? = some 0 := by
  rw [← List.count_pos_iff]
  constructor
  · intro hcount
    have hget := List.getElem?_eq_getElem (h.kept_lt i (List.count_pos_iff.1 hcount))
    have honce := h.once i _ hget
    rw [hget, Option.some.injEq]
    omega
  · intro hzero
    have honce := h.once i 0 hzero
    omega

/-- When the programs that are kept are released, every program was released once. -/
lemma getElem?_release (h : c.Tracks) (i : ℕ) :
    c.release.released[i]? = c.released[i]?.map fun _ => 1 := by
  rw [Compiler.release, getElem?_foldl_modify]
  cases hget : c.released[i]? with
  | none => rfl
  | some n => rw [Option.map_some, Option.map_some, h.once i n hget]

/-- All programs are released. -/
lemma release (h : c.Tracks) : c.release.Tracks where
  once i n hn := by
    rw [h.getElem?_release, Option.map_eq_some_iff] at hn
    obtain ⟨_, -, rfl⟩ := hn
    rfl
  kept_lt _ hi := nomatch hi

/-- A program is made. -/
lemma made (h : c.Tracks) (hreleased : c'.released = c.released ++ [0])
    (hkept : c'.kept = c.kept ++ [c.released.length]) : c'.Tracks where
  once i n hn := by
    rw [hreleased] at hn
    rw [hkept, List.count_append, List.count_singleton']
    -- a program made before, the new one, or none
    obtain hlt | rfl | hgt := Nat.lt_trichotomy i c.released.length
    · rw [List.getElem?_append_left hlt] at hn
      rw [if_neg hlt.ne', Nat.add_zero]
      exact h.once i n hn
    · have hnew : c.kept.count c.released.length = 0 :=
        List.count_eq_zero.2 fun hmem => (h.kept_lt _ hmem).false
      rw [List.getElem?_concat_length] at hn
      cases hn
      rw [hnew, if_pos rfl]
    · rw [List.getElem?_eq_none (by simpa using hgt)] at hn
      cases hn
  kept_lt i hi := by
    rw [hkept, List.mem_append, List.mem_singleton] at hi
    rw [hreleased, List.length_append, List.length_singleton]
    obtain hi | rfl := hi
    · exact Nat.lt_succ_of_lt (h.kept_lt i hi)
    · exact Nat.lt_succ_self _

/-- A step keeps this, whatever becomes of it. -/
lemma next (h : c.Tracks) (step : Step) : (c.next step).Tracks := by
  cases step.becomes c with
  | releases _ _ hnext =>
      rw [hnext]
      exact h.release
  | fails _ _ hreleased hkept =>
      exact ⟨by rw [hreleased, hkept]; exact h.once, by rw [hreleased, hkept]; exact h.kept_lt⟩
  | makes _ _ hreleased hkept => exact h.made hreleased hkept

end Tracks

/-- A run keeps this. -/
lemma tracks_after (steps : List Step) : (new.after steps).Tracks := by
  induction steps using List.reverseRecOn with
  | nil => exact .new
  | append_singleton steps step ih =>
      rw [after_snoc]
      exact ih.next step

/-! ### Releases in a run -/

/-- The programs of a run are those that its steps make. -/
lemma length_released_after (steps : List Step) :
    (new.after steps).released.length = steps.countP fun step => step.Makes := by
  induction steps using List.reverseRecOn with
  | nil => rfl
  | append_singleton steps step ih =>
      rw [after_snoc, List.countP_append, ← ih]
      cases step.becomes (new.after steps) with
      | releases _ hmakes hnext => simp [hnext, Compiler.release, length_foldl_modify, hmakes]
      | fails _ hmakes hreleased => simp [hreleased, hmakes]
      | makes _ hmakes hreleased => simp [hreleased, hmakes]

/-- A program that was made and not released is released by a run once, if the run asks for that,
and not otherwise. -/
lemma released_after (before after : List Step) {i : ℕ}
    (hi : (new.after before).released[i]? = some 0) :
    (new.after (before ++ after)).released[i]? =
      some (if .release ∈ after.map Step.action then 1 else 0) := by
  induction after using List.reverseRecOn with
  | nil => rwa [List.append_nil]
  | append_singleton after step ih =>
      rw [← List.append_assoc, after_snoc, List.map_append]
      cases step.becomes (new.after (before ++ after)) with
      | releases haction _ hnext =>
          rw [hnext, (tracks_after _).getElem?_release, ih]
          simp [haction]
      | fails haction _ hreleased =>
          rw [hreleased, ih]
          simp [haction.symm]
      | makes haction _ hreleased =>
          rw [hreleased, List.getElem?_append_left (List.getElem?_eq_some_iff.1 ih).1, ih]
          simp [haction.symm]

/-- **Programs are released once.** After every run, each program that a step made was released
once, if a later step asks for releases, and not at all otherwise; there are no other programs, and
the compiler keeps those that were not released. A program is made exactly by what answers with one.
What fails makes none and changes neither the releases nor what is kept. The device is called once
by each action whose shaders are right, and not by those that are rejected. -/
theorem released_once (steps : List Step) :
    (∀ before step after, steps = before ++ step :: after → step.Makes →
      (new.after steps).released[before.countP fun step => step.Makes]? =
        some (if .release ∈ after.map Step.action then 1 else 0)) ∧
    (new.after steps).released.length = steps.countP (fun step => step.Makes) ∧
    (∀ i, i ∈ (new.after steps).kept ↔ (new.after steps).released[i]? = some 0) ∧
    (∀ (c : Compiler) step, step.Makes ↔ ∃ call, c.answer step = .ok (some call)) ∧
    (∀ (c : Compiler) step e, c.answer step = .error e →
      ¬ step.Makes ∧ (c.next step).released = c.released ∧ (c.next step).kept = c.kept) ∧
    (∀ (c : Compiler) step call, step.action.Hands call →
      (c.next step).calls = c.calls ++ [call]) ∧
    ∀ (c : Compiler) step e, step.action.Rejects e →
      c.answer step = .error e ∧ (c.next step).calls = c.calls := by
  refine ⟨?_, length_released_after steps, (tracks_after steps).mem_kept_iff, fun c step => ?_,
    fun c step e herror => ?_, fun c step call hhands => ?_, fun c step e hrejects => ?_⟩
  · rintro before step after rfl hmakes
    rw [List.append_cons]
    refine released_after (before ++ [step]) after ?_
    rw [after_snoc, ← length_released_after]
    cases step.becomes (new.after before) with
    | releases _ hnot => exact absurd hmakes hnot
    | fails _ hnot => exact absurd hmakes hnot
    | makes _ _ hreleased => rw [hreleased, List.getElem?_concat_length]
  · cases step.becomes c with
    | releases _ hnot _ hanswer => simp [hnot, hanswer]
    | fails _ hnot _ _ hanswer => simp [hnot, hanswer]
    | makes _ hmakes _ _ hanswer => simp [hmakes, hanswer]
  · cases step.becomes c with
    | releases _ _ _ hanswer => cases hanswer.symm.trans herror
    | fails _ hnot hreleased hkept => exact ⟨hnot, hreleased, hkept⟩
    | makes _ _ _ _ hanswer => cases hanswer.symm.trans herror
  · rw [calls_next, Action.call?_eq_some_iff.2 hhands, Option.toList_some]
  · obtain ⟨hstate, hanswer⟩ := act_of_rejects hrejects step.device c
    exact ⟨hanswer, congrArg calls hstate⟩

/-- A program, a shader that the device refuses, one that is rejected, a release, a program more,
two releases, and a last program. -/
def releasingSteps : List Step :=
  [.program (some (.text (.glsl .vertex) "v\n")) (some (.text (.glsl .fragment) "f\n")) none,
    .compute (some (.text (.glsl .compute) "@fail\n")),
    .compute (some (.text .wgsl "c\n")),
    .release,
    .compute (some (.text (.glsl .compute) "c\n")),
    .release,
    .release,
    .compute (some (.text (.glsl .compute) "c\n"))].map (Step.mk .dryRun)

/-- The first two of the three programs are released once each, and the last one is not. -/
theorem released_once_each :
    (new.after releasingSteps).released.length = 3 ∧
    (new.after releasingSteps).released[0]? = some 1 ∧
    (new.after releasingSteps).released[1]? = some 1 ∧
    (new.after releasingSteps).released[2]? = some 0 ∧ (new.after releasingSteps).kept = [2] := by
  obtain ⟨hmade, hlength, -⟩ := released_once releasingSteps
  refine ⟨hlength, ?_, ?_, ?_, rfl⟩
  · exact hmade [] _ _ rfl (by decide)
  · exact hmade (releasingSteps.take 4) _ _ rfl (by decide)
  · exact hmade (releasingSteps.take 7) _ _ rfl (by decide)

end ShaderPreprocessor.Compiler
