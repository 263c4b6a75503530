/-
What a compiler hands to its device.

* `Compiler.StageSource`, `Compiler.GeometrySource`: the source that a shader is for a stage, or for
  geometry. A shader that is not given is no source;
* `Compiler.Misfit`: what is said of a shader that is none for a stage;
* `Compiler.Action.Hands`, `Compiler.Action.Rejects`: what the device is called with for an action
  whose shaders are right, and what is said of the first shader that is wrong. One of the two is the
  case, `Compiler.Action.trichotomy`;
* `Compiler.act_of_hands`, `Compiler.act_of_rejects`: what an action does in each case;
* `Compiler.Step`, `Compiler.after`: runs on a device that need not answer the same call in the same
  way each time. `Compiler.calls_after` says what it is called with;
* `Compiler.calls_complete_iff`: which sources reach a device; `Compiler.missing_shader_handed`: a
  missing one may.
-/
import Mathlib.Tactic
import ShaderPreprocessor.Compiler

namespace ShaderPreprocessor

/-- There is a source for each stage that a call is about. -/
def DeviceCall.Complete : DeviceCall → Prop
  | program vertex fragment _ => vertex ≠ none ∧ fragment ≠ none
  | compute source => source ≠ none

namespace Compiler

/-! ### Sources -/

/-- The source that a shader is for a stage: its text, if it is GLSL for that stage. -/
inductive StageSource (stage : Stage) : Option Processed → Option String → Prop where
  /-- No shader is given, and there is no source. -/
  | missing : StageSource stage none none
  /-- A shader for the stage is given. -/
  | given (content : String) :
      StageSource stage (some (.text (.glsl stage) content)) (some content)

/-- What is said of a shader that is given and is no source for a stage. -/
inductive Misfit (stage : Stage) : Option Processed → CompileError → Prop where
  /-- It is not GLSL. -/
  | notGlsl {got : Processed} (hgot : got.glslText? = none) :
      Misfit stage (some got) (.notGlsl stage got)
  /-- It is made for another stage. -/
  | wrongStage {other : Stage} (hother : other ≠ stage) (content : String) :
      Misfit stage (some (.text (.glsl other) content)) (.wrongStage stage other)

/-- The source that a shader is for geometry: its text, if it is GLSL. -/
inductive GeometrySource : Option Processed → Option String → Prop where
  /-- No shader is given, and there is no source. -/
  | missing : GeometrySource none none
  /-- A GLSL shader is given. -/
  | given {got : Processed} {content : String} (hgot : got.glslText? = some content) :
      GeometrySource (some got) (some content)

section Sources

variable {stage : Stage} {shader : Option Processed} {source : Option String} {e : CompileError}

lemma StageSource.eq_ok (h : StageSource stage shader source) :
    stageSource stage shader = .ok source := by
  cases h with
  | missing => rfl
  | given content => exact if_pos rfl

/-- Only where no shader is given, there is no source. -/
lemma StageSource.eq_none_iff (h : StageSource stage shader source) :
    source = none ↔ shader = none := by
  cases h <;> simp

lemma Misfit.eq_error (h : Misfit stage shader e) : stageSource stage shader = .error e := by
  cases h with
  | @notGlsl got hgot =>
      match got, hgot with
      | .text .wgsl _, _ => rfl
      | .spirv _, _ => rfl
  | wrongStage hother content => exact if_neg hother

/-- A shader is a source for a stage or none, as the checks say. -/
lemma exists_source_or_misfit (stage : Stage) (shader : Option Processed) :
    (∃ source, StageSource stage shader source) ∨ ∃ e, Misfit stage shader e := by
  match shader with
  | none => exact .inl ⟨_, .missing⟩
  | some (.text .wgsl _) | some (.spirv _) => exact .inr ⟨_, .notGlsl rfl⟩
  | some (.text (.glsl other) content) =>
      by_cases hother : other = stage
      · subst hother
        exact .inl ⟨_, .given content⟩
      · exact .inr ⟨_, .wrongStage hother content⟩

/-- What is wrong with a shader is not that the device refuses it. -/
lemma Misfit.ne_refused (h : Misfit stage shader e) (message : String) : e ≠ .refused message := by
  cases h <;> exact CompileError.noConfusion

lemma GeometrySource.eq_ok (h : GeometrySource shader source) :
    geometrySource shader = .ok source := by
  cases h with
  | missing => rfl
  | @given got content hgot =>
      match got, hgot with
      | .text (.glsl _) _, rfl => rfl

lemma geometrySource_eq_error {got : Processed} (hgot : got.glslText? = none) :
    geometrySource (some got) = .error .geometryNotGlsl := by
  match got, hgot with
  | .text .wgsl _, _ => rfl
  | .spirv _, _ => rfl

/-- A shader is a source for geometry, or it is given and not GLSL. -/
lemma exists_geometrySource_or (shader : Option Processed) :
    (∃ source, GeometrySource shader source) ∨
      ∃ got, shader = some got ∧ got.glslText? = none := by
  cases shader with
  | none => exact .inl ⟨_, .missing⟩
  | some got =>
      cases hgot : got.glslText? with
      | none => exact .inr ⟨got, rfl, hgot⟩
      | some content => exact .inl ⟨_, .given hgot⟩

end Sources

/-! ### Actions -/

namespace Action

/-- What the device is called with for an action whose shaders are right. -/
inductive Hands : Action → DeviceCall → Prop where
  /-- Each shader is a source where it stands. -/
  | program {vertex fragment geometry : Option Processed}
      {vertexSource fragmentSource geometrySource : Option String}
      (hvertex : StageSource .vertex vertex vertexSource)
      (hfragment : StageSource .fragment fragment fragmentSource)
      (hgeometry : GeometrySource geometry geometrySource) :
      Hands (.program vertex fragment geometry)
        (.program vertexSource fragmentSource geometrySource)
  /-- The shader is a source for its stage. -/
  | compute {shader : Option Processed} {source : Option String}
      (hshader : StageSource .compute shader source) : Hands (.compute shader) (.compute source)

/-- What is said of the first shader of an action that is wrong. -/
inductive Rejects : Action → CompileError → Prop where
  /-- The vertex shader is wrong. -/
  | vertex {vertex : Option Processed} (fragment geometry : Option Processed) {e : CompileError}
      (hvertex : Misfit .vertex vertex e) : Rejects (.program vertex fragment geometry) e
  /-- The vertex shader is right, and the fragment shader is wrong. -/
  | fragment {vertex fragment : Option Processed} (geometry : Option Processed)
      {source : Option String} {e : CompileError} (hvertex : StageSource .vertex vertex source)
      (hfragment : Misfit .fragment fragment e) : Rejects (.program vertex fragment geometry) e
  /-- The shaders for stages are right, and the geometry shader is not GLSL. -/
  | geometry {vertex fragment : Option Processed} {got : Processed}
      {vertexSource fragmentSource : Option String}
      (hvertex : StageSource .vertex vertex vertexSource)
      (hfragment : StageSource .fragment fragment fragmentSource) (hgot : got.glslText? = none) :
      Rejects (.program vertex fragment (some got)) .geometryNotGlsl
  /-- The compute shader is wrong. -/
  | compute {shader : Option Processed} {e : CompileError} (hshader : Misfit .compute shader e) :
      Rejects (.compute shader) e

/-- The checks that an action begins with: the call for its shaders, or what is wrong with them. -/
def checked : Action → Option (Except CompileError DeviceCall)
  | program vertex fragment geometry => some (programCall vertex fragment geometry)
  | compute shader => some (computeCall shader)
  | release => none

/-- What the device is called with for an action, if it is called. -/
def call? (action : Action) : Option DeviceCall := action.checked.bind Except.toOption

variable {action : Action} {call : DeviceCall} {e : CompileError}

/-- The shaders of an action are right or one of them is wrong, unless it is about none. -/
lemma trichotomy (action : Action) :
    action = .release ∨ (∃ e, action.Rejects e) ∨ ∃ call, action.Hands call := by
  cases action with
  | release => exact .inl rfl
  | compute shader =>
      obtain ⟨source, hshader⟩ | ⟨e, hshader⟩ := exists_source_or_misfit .compute shader
      · exact .inr (.inr ⟨_, .compute hshader⟩)
      · exact .inr (.inl ⟨_, .compute hshader⟩)
  | program vertex fragment geometry =>
      -- the first wrong shader counts, so that each is looked at only if those before it are right
      obtain ⟨vertexSource, hvertex⟩ | ⟨e, hvertex⟩ := exists_source_or_misfit .vertex vertex
      case inr => exact .inr (.inl ⟨_, .vertex _ _ hvertex⟩)
      obtain ⟨fragmentSource, hfragment⟩ | ⟨e, hfragment⟩ :=
        exists_source_or_misfit .fragment fragment
      case inr => exact .inr (.inl ⟨_, .fragment _ hvertex hfragment⟩)
      obtain ⟨source, hgeometry⟩ | ⟨got, rfl, hgot⟩ := exists_geometrySource_or geometry
      · exact .inr (.inr ⟨_, .program hvertex hfragment hgeometry⟩)
      · exact .inr (.inl ⟨_, .geometry hvertex hfragment hgot⟩)

lemma Hands.checked (h : action.Hands call) : action.checked = some (.ok call) := by
  cases h with
  | program hvertex hfragment hgeometry =>
      simp only [Action.checked, programCall, hvertex.eq_ok, hfragment.eq_ok, hgeometry.eq_ok,
        Except.map]
  | compute hshader => simp only [Action.checked, computeCall, hshader.eq_ok, Except.map]

lemma Rejects.checked (h : action.Rejects e) : action.checked = some (.error e) := by
  cases h with
  | vertex _ _ hvertex => simp only [Action.checked, programCall, hvertex.eq_error]
  | fragment _ hvertex hfragment =>
      simp only [Action.checked, programCall, hvertex.eq_ok, hfragment.eq_error]
  | geometry hvertex hfragment hgot =>
      simp only [Action.checked, programCall, hvertex.eq_ok, hfragment.eq_ok,
        geometrySource_eq_error hgot, Except.map]
  | compute hshader => simp only [Action.checked, computeCall, hshader.eq_error, Except.map]

/-- There is one call for right shaders. -/
lemma Hands.unique {other : DeviceCall} (h : action.Hands call) (hother : action.Hands other) :
    call = other := by
  cases h.checked.symm.trans hother.checked
  rfl

/-- Shaders of which one is wrong are not right. -/
lemma Rejects.not_hands (h : action.Rejects e) (call : DeviceCall) : ¬ action.Hands call := by
  intro hhands
  cases h.checked.symm.trans hhands.checked

lemma Hands.ne_release (h : action.Hands call) : action ≠ .release := by
  cases h <;> exact Action.noConfusion

lemma Rejects.ne_release (h : action.Rejects e) : action ≠ .release := by
  cases h <;> exact Action.noConfusion

/-- The device is called exactly if the shaders are right. -/
lemma call?_eq_some_iff : action.call? = some call ↔ action.Hands call := by
  refine ⟨fun h => ?_, fun h => by rw [call?, h.checked]; rfl⟩
  obtain rfl | ⟨e, hrejects⟩ | ⟨right, hhands⟩ := action.trichotomy
  · cases h
  · rw [call?, hrejects.checked] at h
    cases h
  · rw [call?, hhands.checked] at h
    cases h
    exact hhands

/-- An action without a shader for one of the stages that it is about. -/
def Lacks : Action → Prop
  | program vertex fragment _ => vertex = none ∨ fragment = none
  | compute shader => shader = none
  | release => False

/-- The call for right shaders lacks a source exactly if the action lacks a shader. -/
lemma Hands.complete_iff (h : action.Hands call) : call.Complete ↔ ¬ action.Lacks := by
  cases h with
  | program hvertex hfragment _ =>
      rw [DeviceCall.Complete, Lacks, not_or, ne_eq, ne_eq, hvertex.eq_none_iff,
        hfragment.eq_none_iff]
  | compute hshader => rw [DeviceCall.Complete, Lacks, ne_eq, hshader.eq_none_iff]

/-- Nothing is said to be refused by the device before it is called. -/
lemma Rejects.ne_refused (h : action.Rejects e) (message : String) : e ≠ .refused message := by
  cases h with
  | vertex _ _ hvertex => exact hvertex.ne_refused message
  | fragment _ _ hfragment => exact hfragment.ne_refused message
  | geometry => exact CompileError.noConfusion
  | compute hshader => exact hshader.ne_refused message

end Action

/-! ### One action -/

section Act

variable {device : Device} {action : Action} {call : DeviceCall} {e : CompileError}
  {message : String}

/-- If a shader is wrong, this is said, and nothing changes. -/
lemma act_of_rejects (h : action.Rejects e) (device : Device) (c : Compiler) :
    (c.act device action).1 = c ∧ (c.act device action).2.outcome = .error e := by
  have hchecked := h.checked
  cases action with
  | program vertex fragment geometry =>
      rw [act, program, Option.some.inj hchecked]
      exact ⟨rfl, rfl⟩
  | compute shader =>
      rw [act, compute, Option.some.inj hchecked]
      exact ⟨rfl, rfl⟩
  | release => cases hchecked

/-- If the shaders are right, the device is called, and what it makes is kept. -/
lemma act_of_hands (h : action.Hands call) (device : Device) (c : Compiler) :
    ∃ refusal, (c.act device action).1 = (c.hand device refusal call).1 ∧
      (c.act device action).2.outcome = ((c.hand device refusal call).2.map some).outcome := by
  have hchecked := h.checked
  cases action with
  | program vertex fragment geometry =>
      rw [act, program, Option.some.inj hchecked]
      exact ⟨_, rfl, rfl⟩
  | compute shader =>
      rw [act, compute, Option.some.inj hchecked]
      exact ⟨_, rfl, rfl⟩
  | release => cases hchecked

/-- A call that is refused is told of, and makes no program. -/
lemma act_of_refused (h : action.Hands call) (hdevice : device call = some message)
    (c : Compiler) :
    (c.act device action).1 = { c with calls := c.calls ++ [call] } ∧
      (c.act device action).2.outcome = .error (.refused message) := by
  obtain ⟨refusal, hstate, houtcome⟩ := act_of_hands h device c
  rw [hstate, houtcome, hand, hdevice]
  exact ⟨rfl, rfl⟩

/-- A call that is not refused makes a program, which is kept. -/
lemma act_of_made (h : action.Hands call) (hdevice : device call = none) (c : Compiler) :
    (c.act device action).1 =
        ⟨c.calls ++ [call], c.released ++ [0], c.kept ++ [c.released.length]⟩ ∧
      (c.act device action).2.outcome = .ok (some call) := by
  obtain ⟨refusal, hstate, houtcome⟩ := act_of_hands h device c
  rw [hstate, houtcome, hand, hdevice]
  exact ⟨rfl, rfl⟩

end Act

/-! ### Runs -/

/-- An action, and the device as it is then: it may come to refuse what it took, and the other way
round. -/
structure Step where
  /-- The device at that time. -/
  device : Device
  /-- What is asked. -/
  action : Action

/-- The compiler after a step. -/
def next (c : Compiler) (step : Step) : Compiler := (c.act step.device step.action).1

/-- What a step comes to. -/
def answer (c : Compiler) (step : Step) : Except CompileError (Option DeviceCall) :=
  (c.act step.device step.action).2.outcome

/-- The compiler after a run. -/
def after (c : Compiler) (steps : List Step) : Compiler := steps.foldl next c

/-- A step more. -/
lemma after_snoc (c : Compiler) (steps : List Step) (step : Step) :
    c.after (steps ++ [step]) = (c.after steps).next step := List.foldl_append

/-- A step calls the device once, if its shaders are right, and not otherwise. -/
lemma calls_next (c : Compiler) (step : Step) :
    (c.next step).calls = c.calls ++ step.action.call?.toList := by
  obtain hrelease | ⟨e, hrejects⟩ | ⟨call, hhands⟩ := step.action.trichotomy
  · rw [next, hrelease]
    exact (List.append_nil _).symm
  · rw [next, (act_of_rejects hrejects step.device c).1, Action.call?, hrejects.checked]
    exact (List.append_nil _).symm
  · rw [next, Action.call?_eq_some_iff.2 hhands]
    cases hdevice : step.device call with
    | none => rw [(act_of_made hhands hdevice c).1]; rfl
    | some message => rw [(act_of_refused hhands hdevice c).1]; rfl

/-- A run calls the device once for each step whose shaders are right, in order. -/
lemma calls_after (c : Compiler) (steps : List Step) :
    (c.after steps).calls = c.calls ++ steps.filterMap fun step => step.action.call? := by
  induction steps using List.reverseRecOn with
  | nil => exact (List.append_nil _).symm
  | append_singleton steps step ih =>
      rw [after_snoc, calls_next, ih, List.filterMap_append, List.append_assoc]
      cases hcall : step.action.call? <;> simp [hcall]

/-- What the device is called with in a run from the start. -/
lemma mem_calls_iff {steps : List Step} {call : DeviceCall} :
    call ∈ (new.after steps).calls ↔ ∃ step ∈ steps, step.action.Hands call := by
  rw [calls_after, new, List.nil_append, List.mem_filterMap]
  exact exists_congr fun step => and_congr_right fun _ => Action.call?_eq_some_iff

/-- **Which sources reach a device.** Whatever it is called with in a run are the texts of GLSL
shaders of an action, each made for the stage that it is the source of. An action whose shaders are
right calls the device with these. If a shader that is given is wrong, this is said of the first
such, the device is not called, and nothing changes. One of the two is the case, unless the compiler
is asked to release its programs. There is a source for every stage in all calls of a run exactly if
all actions without a shader for a stage are rejected for another shader. -/
theorem calls_complete_iff (steps : List Step) :
    (∀ call ∈ (new.after steps).calls, ∃ step ∈ steps, step.action.Hands call) ∧
    (∀ (c : Compiler) step call, step.action.Hands call →
      (c.next step).calls = c.calls ++ [call]) ∧
    (∀ (c : Compiler) step e, step.action.Rejects e →
      c.answer step = .error e ∧ (∀ message, e ≠ .refused message) ∧ c.next step = c) ∧
    (∀ action : Action,
      action = .release ∨ (∃ e, action.Rejects e) ∨ ∃ call, action.Hands call) ∧
    ((∀ call ∈ (new.after steps).calls, call.Complete) ↔
      ∀ step ∈ steps, step.action.Lacks → ∃ e, step.action.Rejects e) := by
  refine ⟨fun call => mem_calls_iff.1, fun c step call hhands => ?_, fun c step e hrejects => ?_,
    Action.trichotomy, fun hcomplete step hstep hlacks => ?_, fun hlacks call hcall => ?_⟩
  · rw [calls_next, Action.call?_eq_some_iff.2 hhands, Option.toList_some]
  · obtain ⟨hstate, houtcome⟩ := act_of_rejects hrejects step.device c
    exact ⟨houtcome, hrejects.ne_refused, hstate⟩
  · obtain hrelease | hrejects | ⟨call, hhands⟩ := step.action.trichotomy
    · rw [hrelease] at hlacks
      exact hlacks.elim
    · exact hrejects
    · have hcall := hcomplete call (mem_calls_iff.2 ⟨step, hstep, hhands⟩)
      exact absurd hlacks (hhands.complete_iff.1 hcall)
  · obtain ⟨step, hstep, hhands⟩ := mem_calls_iff.1 hcall
    refine hhands.complete_iff.2 fun hlack => ?_
    obtain ⟨e, hrejects⟩ := hlacks step hstep hlack
    exact hrejects.not_hands call hhands

/-- A program with a geometry shader made for another stage, one that lacks its vertex shader and
has WGSL for fragments, a vertex shader to compute with, and a compute shader that the device
refuses. -/
def mixedSteps : List Step :=
  [.program (some (.text (.glsl .vertex) "v\n")) (some (.text (.glsl .fragment) "f\n"))
      (some (.text (.glsl .compute) "g\n")),
    .program none (some (.text .wgsl "f\n")) none,
    .compute (some (.text (.glsl .vertex) "v\n")),
    .compute (some (.text (.glsl .compute) "@fail\n"))].map (Step.mk .dryRun)

/-- The second of these is rejected for its fragment shader, so that the device gets a source for
every stage: those of the first and of the last. -/
theorem calls_complete_of_mixed :
    (∀ step ∈ mixedSteps, step.action.Lacks → ∃ e, step.action.Rejects e) ∧
    (new.after mixedSteps).calls =
      [.program (some "v\n") (some "f\n") (some "g\n"), .compute (some "@fail\n")] ∧
    ∀ call ∈ (new.after mixedSteps).calls, call.Complete := by
  have hlacks : ∀ step ∈ mixedSteps, step.action.Lacks → ∃ e, step.action.Rejects e := by
    simp only [mixedSteps, List.map_cons, List.map_nil, List.forall_mem_cons]
    refine ⟨fun h => ?_, fun _ => ⟨_, .fragment _ .missing (.notGlsl rfl)⟩, fun h => ?_,
      fun h => ?_, List.forall_mem_nil _⟩ <;> simp [Action.Lacks] at h
  exact ⟨hlacks, rfl, (calls_complete_iff mixedSteps).2.2.2.2.2 hlacks⟩

/-- Without another fault, what lacks a shader is not rejected: a program is made without a vertex
source, and one without a source to compute with. -/
theorem missing_shader_handed :
    let steps := [.program none (some (.text (.glsl .fragment) "f\n")) none,
      .compute none].map (Step.mk .dryRun)
    (∀ step ∈ steps, step.action.Lacks) ∧
    (new.after steps).calls = [.program none (some "f\n") none, .compute none] ∧
    (new.after steps).released = [0, 0] ∧ ∀ call ∈ (new.after steps).calls, ¬ call.Complete := by
  refine ⟨?_, rfl, rfl, ?_⟩
  · simp [Action.Lacks]
  · change ∀ call ∈ [DeviceCall.program none (some "f\n") none, .compute none], ¬ call.Complete
    simp [DeviceCall.Complete]

end Compiler

end ShaderPreprocessor
