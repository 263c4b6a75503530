/-
Libraries that share a supply of handles do not notice one another.

* `World.Action.own?`: the operations of a run on one library;
* `Library.OwnHandles`: every handle that is passed to a library was issued to it before;
* `World.issues_sublist`: what is issued to one library is issued in the run, in the same order, so
  that a renaming leads 0, 1, 2, ... to it (`World.exists_lists_issues`);
* `World.Mirrors`: a run of several libraries and one of a single library agree on what happens to
  one of the several, up to a renaming. `Mirrors.idle` is an action elsewhere, `Mirrors.call` an
  operation on the library, and `World.exists_mirrors` a whole run;
* `World.library_isolated`: what this says of every library of a run.
-/
import ShaderPreprocessor.Proofs.Library.Renaming

namespace ShaderPreprocessor

/-! ### Operations on one library -/

/-- The operation on a library that an action is, if it is one. -/
def World.Action.own? (i : ℕ) : World.Action → Option Library.Action
  | .library j action => if j = i then some action else none
  | _ => none

/-- The handles that a call issued. -/
def Library.Call.issues (call : Call) : List Handle := call.action.issues call.outcome

/-- Every handle that is passed to a library was issued to it by an earlier call. -/
def Library.OwnHandles (history : List Call) : Prop :=
  ∀ before call after, history = before ++ call :: after →
    ∀ h ∈ call.action.handles, h ∈ before.flatMap Call.issues

/-- Up to its last call a history is one of own handles, and those of the last call were issued
before. -/
lemma Library.OwnHandles.snoc {history : List Call} {call : Call}
    (h : OwnHandles (history ++ [call])) :
    OwnHandles history ∧ ∀ g ∈ call.action.handles, g ∈ history.flatMap Call.issues := by
  refine ⟨fun before call' after hsplit => h before call' (after ++ [call]) ?_,
    h history call [] rfl⟩
  rw [hsplit, List.append_assoc, List.cons_append]

/-- It is enough to look at the calls by their places, and so it can be checked. -/
lemma Library.ownHandles_iff_getElem {history : List Call} :
    OwnHandles history ↔ ∀ (k : ℕ) (hk : k < history.length),
      ∀ h ∈ (history[k]).action.handles, h ∈ (history.take k).flatMap Call.issues := by
  constructor
  · intro howns k hk
    refine howns (history.take k) history[k] (history.drop (k + 1)) ?_
    rw [← List.drop_eq_getElem_cons hk, List.take_append_drop]
  · rintro hplaces before call after rfl
    have hlast := hplaces before.length (by simp)
    rw [List.getElem_append_right le_rfl, List.take_left] at hlast
    simpa using hlast

instance (history : List Library.Call) : Decidable (Library.OwnHandles history) :=
  decidable_of_iff' _ Library.ownHandles_iff_getElem

namespace World

variable {world alone : World} {i : ℕ} {actions : List Action} {own : List Library.Action}
  {σ : Renaming}

/-- A call is made on a library by an operation on it, and by nothing else. -/
lemma call?_eq (i : ℕ) (world : World) (action : Action) :
    world.call? i action = (action.own? i).map fun own => ⟨own, world.reply i own⟩ := by
  cases action with
  | library j own =>
      rw [call?, Action.own?]
      split <;> rfl
  | serverLibrary | load | handle | process | write | delete => rfl

/-- The operations on a library are the actions that say so. -/
lemma Action.own?_eq_some_iff {action : Action} {own : Library.Action} :
    action.own? i = some own ↔ action = .library i own := by
  cases action with
  | library j other =>
      rw [own?, Action.library.injEq]
      split
      · next heq => rw [Option.some.injEq, and_iff_right heq]
      · next hne => exact ⟨fun h => (Option.some_ne_none own h.symm).elim, fun h => absurd h.1 hne⟩
  | serverLibrary | load | handle | process | write | delete => simp [own?]

/-- An operation on a library, and what it comes to. -/
lemma act_own {library : Library} (hlibrary : world.libraries[i]? = some library)
    (action : Library.Action) :
    world.call? i (.library i action) =
        some ⟨action, (library.act world.supply action).2.2.outcome⟩ ∧
      (world.act (.library i action)).1.supply = (library.act world.supply action).1 ∧
      (world.act (.library i action)).1.libraries[i]? =
        some (library.act world.supply action).2.1 := by
  have hown : Action.own? i (.library i action) = some action := Action.own?_eq_some_iff.2 rfl
  obtain ⟨own, hcall, hsupply, hnext⟩ | ⟨hcall, -⟩ := act_library hlibrary (.library i action)
  · have hsame : own = action := by
      rw [call?_eq, hown, Option.map_some, Option.some.injEq, Library.Call.mk.injEq] at hcall
      exact hcall.1.symm
    rw [hsame] at hcall hsupply hnext
    exact ⟨hcall, hsupply, hnext⟩
  · rw [call?_eq, hown] at hcall
    cases hcall

/-! ### What is issued to one library -/

/-- What is issued to one library is issued in the run, in the same order. -/
lemma issues_sublist (i : ℕ) (world : World) (actions : List Action) :
    ((world.history i actions).flatMap Library.Call.issues).Sublist (world.issued actions) := by
  induction actions using List.reverseRecOn with
  | nil => exact List.Sublist.refl _
  | append_singleton actions action ih =>
      rw [history_snoc, issued_snoc, List.flatMap_append]
      refine ih.append ?_
      rw [call?_eq]
      cases hown : action.own? i with
      | none => exact List.nil_sublist _
      | some own =>
          rw [Action.own?_eq_some_iff.1 hown, Option.map_some, Option.toList_some,
            List.flatMap_singleton]
          exact List.Sublist.refl _

/-- What is issued to one library of a run from the start on can be listed. -/
lemma exists_lists_issues (libraries : ℕ) (servers : List (Path × Settings)) (files : FileTree)
    (i : ℕ) (actions : List Action) :
    ∃ σ : Renaming, σ.Lists
      (((start libraries servers files).history i actions).flatMap Library.Call.issues) := by
  have hsub := issues_sublist i (start libraries servers files) actions
  rw [(issued_eq_upTo _ _).2] at hsub
  have hbounds : ∀ h ∈ ((start libraries servers files).history i actions).flatMap
      Library.Call.issues, 0 ≤ h.value ∧
        h.value < ((start libraries servers files).run actions).supply.next := by
    intro h hh
    obtain ⟨hle, hlt⟩ := Supply.mem_upTo.1 (hsub.mem hh)
    exact ⟨by omega, hlt⟩
  exact Renaming.exists_lists ((Supply.upTo_pairwise _ _).sublist hsub) hbounds

/-! ### A run beside a run of one library -/

/-- Of a run of several libraries one of them has the same part as a single library in a run of its
own, up to a renaming. -/
structure Mirrors (σ : Renaming) (i : ℕ) (world : World) (actions : List Action) (alone : World)
    (own : List Library.Action) : Prop where
  /-- The same operations are called. -/
  operations : actions.filterMap (Action.own? i) = own.map (Library.Action.rename σ)
  /-- They come to the same. -/
  history : world.history i actions =
    (alone.history 0 (own.map (.library 0))).map (Library.Call.rename σ)
  /-- As many handles were issued alone as were issued to the one of several. -/
  supply : (alone.run (own.map (.library 0))).supply.next =
    ((world.history i actions).flatMap Library.Call.issues).length
  /-- The same is stored in the end. -/
  library : ∃ library, (alone.run (own.map (.library 0))).libraries[0]? = some library ∧
    (world.run actions).libraries[i]? = some (library.rename σ)

namespace Mirrors

/-- Before anything has happened. -/
lemma nil (σ : Renaming) (hworld : world.libraries[i]? = some .empty)
    (halone : alone.libraries[0]? = some .empty) (hfresh : alone.supply = .fresh) :
    Mirrors σ i world [] alone [] where
  operations := rfl
  history := rfl
  supply := by rw [List.map_nil, run, List.foldl_nil, hfresh]; rfl
  library := ⟨.empty, halone, by rw [Library.rename_empty]; exact hworld⟩

/-- One action more that is no operation on the library. -/
lemma idle (h : Mirrors σ i world actions alone own) {action : Action}
    (hown : action.own? i = none) : Mirrors σ i world (actions ++ [action]) alone own := by
  have hcall : (world.run actions).call? i action = none := by rw [call?_eq, hown, Option.map_none]
  have hhistory : world.history i (actions ++ [action]) = world.history i actions := by
    rw [history_snoc, hcall, Option.toList_none, List.append_nil]
  obtain ⟨library, halone, hlibrary⟩ := h.library
  constructor
  case operations =>
    rw [List.filterMap_append, h.operations, List.filterMap_cons_none hown, List.filterMap_nil,
      List.append_nil]
  case history => rw [hhistory, h.history]
  case supply => rw [hhistory, h.supply]
  case library =>
    obtain ⟨other, hother, -⟩ | ⟨-, hsame⟩ := act_library hlibrary action
    · rw [hcall] at hother
      cases hother
    · exact ⟨library, halone, by rw [run_snoc, hsame]⟩

/-- The handle that would be issued alone leads to the one that is listed next. -/
lemma apply_handle (h : Mirrors σ i world actions alone own) {g : Handle}
    (hlists : σ.Lists ((world.history i actions).flatMap Library.Call.issues ++ [g])) :
    σ (alone.run (own.map (.library 0))).supply.handle = g := by
  rw [Supply.handle, h.supply, hlists.next]

/-- One operation more on the library. -/
lemma call (h : Mirrors σ i world actions alone own) {action : Library.Action}
    (hlists : σ.Lists ((world.history i
      (actions ++ [.library i (action.rename σ)])).flatMap Library.Call.issues)) :
    Mirrors σ i world (actions ++ [.library i (action.rename σ)]) alone (own ++ [action]) := by
  obtain ⟨library, halone, hlibrary⟩ := h.library
  obtain ⟨hcall, -, hnext⟩ := act_own hlibrary (action.rename σ)
  obtain ⟨hcall', hsupply', hnext'⟩ := act_own halone action
  have hhistory := history_snoc i world actions (.library i (action.rename σ))
  rw [hcall, Option.toList_some] at hhistory
  have hhistory' := history_snoc 0 alone (own.map (.library 0)) (.library 0 action)
  rw [hcall', Option.toList_some] at hhistory'
  rw [hhistory, List.flatMap_append, List.flatMap_singleton] at hlists
  -- a handle that is issued here is led to by the handle that is issued alone
  have hissued : ∀ g ∈ (action.rename σ).issues ((library.rename σ).act (world.run actions).supply
      (action.rename σ)).2.2.outcome, σ (alone.run (own.map (.library 0))).supply.handle = g := by
    intro g hg
    obtain hnone | ⟨g', hone⟩ := Library.Action.issues_eq (action.rename σ)
      ((library.rename σ).act (world.run actions).supply (action.rename σ)).2.2.outcome
    · rw [hnone] at hg
      cases hg
    · rw [Library.Call.issues, hone] at hlists
      rw [hone, List.mem_singleton] at hg
      rw [hg, h.apply_handle hlists]
  obtain ⟨hsame, houtcome⟩ := Library.act_rename σ library (world.run actions).supply
    (alone.run (own.map (.library 0))).supply action hissued
  have hown := Action.own?_eq_some_iff (i := i).2 (rfl : Action.library i (action.rename σ) = _)
  constructor
  case operations =>
    rw [List.filterMap_append, h.operations, List.filterMap_cons_some hown, List.filterMap_nil,
      List.map_append, List.map_singleton]
  case history =>
    rw [hhistory, h.history, List.map_append, List.map_singleton, hhistory', List.map_append,
      List.map_singleton, houtcome, Library.Call.rename]
  case supply =>
    rw [List.map_append, List.map_singleton, run_snoc, hsupply', Library.act_next, h.supply,
      hhistory, List.flatMap_append, List.flatMap_singleton, List.length_append,
      Library.Call.issues, houtcome, Library.Action.issues_rename, List.length_map]
  case library =>
    refine ⟨(library.act (alone.run (own.map (.library 0))).supply action).2.1, ?_, ?_⟩
    · rw [List.map_append, List.map_singleton, run_snoc, hnext']
    · rw [run_snoc, hnext, hsame]

end Mirrors

/-- Every run on own handles has its part on one library in a run of that library alone. -/
lemma exists_mirrors (hworld : world.libraries[i]? = some .empty)
    (halone : alone.libraries[0]? = some .empty) (hfresh : alone.supply = .fresh)
    (howns : Library.OwnHandles (world.history i actions))
    (hlists : σ.Lists ((world.history i actions).flatMap Library.Call.issues)) :
    ∃ own, Mirrors σ i world actions alone own := by
  induction actions using List.reverseRecOn with
  | nil => exact ⟨[], .nil σ hworld halone hfresh⟩
  | append_singleton actions action ih =>
      rw [history_snoc, call?_eq] at howns
      cases hown : action.own? i with
      | none =>
          rw [history_snoc, call?_eq, hown, Option.map_none, Option.toList_none,
            List.append_nil] at hlists
          rw [hown, Option.map_none, Option.toList_none, List.append_nil] at howns
          obtain ⟨own, hmirrors⟩ := ih howns hlists
          exact ⟨own, hmirrors.idle hown⟩
      | some other =>
          rw [hown, Option.map_some, Option.toList_some] at howns
          obtain ⟨hbefore, hlast⟩ := howns.snoc
          have hearlier : σ.Lists ((world.history i actions).flatMap Library.Call.issues) := by
            rw [history_snoc, List.flatMap_append] at hlists
            exact hlists.left
          -- the handles that are passed were issued before, and so are names
          have hnames : ∀ g ∈ other.handles, ∃ g', σ g' = g :=
            fun g hg => hearlier.exists_apply (hlast g hg)
          obtain ⟨action', rfl⟩ := Library.Action.exists_rename hnames
          obtain rfl := Action.own?_eq_some_iff.1 hown
          obtain ⟨own, hmirrors⟩ := ih hbefore hearlier
          exact ⟨own ++ [action'], hmirrors.call hlists⟩

/-- **Libraries do not notice one another.** Let every handle that is passed to a library in a run
be one that was issued to it before, whatever is done meanwhile to other libraries and servers that
draw from the same supply. Then there is a renaming of handles that keeps their order, such that the
operations on the library are those of a run of a single library on a supply of its own, under
other handles; they come to the same, be it an answer or a failure, and leave the same library
behind, both under other handles. -/
theorem library_isolated {libraries : ℕ} (hi : i < libraries) (servers : List (Path × Settings))
    (files : FileTree) (actions : List Action)
    (howns : Library.OwnHandles ((start libraries servers files).history i actions)) :
    ∃ (σ : Renaming) (own : List Library.Action),
      actions.filterMap (Action.own? i) = own.map (Library.Action.rename σ) ∧
      (start libraries servers files).history i actions =
        ((start 1 [] files).history 0 (own.map (.library 0))).map (Library.Call.rename σ) ∧
      ∃ library, ((start 1 [] files).run (own.map (.library 0))).libraries[0]? = some library ∧
        ((start libraries servers files).run actions).libraries[i]? =
          some (library.rename σ) := by
  have hworld : (start libraries servers files).libraries[i]? = some .empty := by
    rw [start, List.getElem?_replicate, if_pos hi]
  have halone : (start 1 [] files).libraries[0]? = some .empty := rfl
  obtain ⟨σ, hlists⟩ := exists_lists_issues libraries servers files i actions
  obtain ⟨own, hmirrors⟩ := exists_mirrors hworld halone rfl howns hlists
  exact ⟨σ, own, hmirrors.operations, hmirrors.history, hmirrors.library⟩

/-- Two libraries at work in turns: each has a shader of the name `lib` of its own and imports it,
the first one drops its shader again, and the second one fails to drop a handle that stands for
nothing. -/
def interleaved : List Action :=
  [.library 0 (.add ⟨.text .wgsl "a\n", some (.custom "lib")⟩),
    .library 1 .issue,
    .library 1 (.add ⟨.text .wgsl "b\n", some (.custom "lib")⟩),
    .library 0 (.add ⟨.text .wgsl "#import lib\n", none⟩),
    .library 1 (.add ⟨.text .wgsl "#import lib\n", none⟩),
    .library 0 (.remove ⟨0⟩),
    .library 1 (.process ⟨4⟩ []),
    .library 1 (.remove ⟨1⟩)]

/-- The second library inlines its own shader and names its own handle, and would do so alone with
the handles 0, 1, 2 in place of 1, 2, 4. -/
theorem library_isolated_interleaved :
    ∃ (σ : Renaming) (own : List Library.Action),
      interleaved.filterMap (Action.own? 1) = own.map (Library.Action.rename σ) ∧
      [⟨.issue, .ok (.handle ⟨1⟩)⟩,
        ⟨.add ⟨.text .wgsl "b\n", some (.custom "lib")⟩, .ok (.handle ⟨2⟩)⟩,
        ⟨.add ⟨.text .wgsl "#import lib\n", none⟩, .ok (.handle ⟨4⟩)⟩,
        ⟨.process ⟨4⟩ [], .ok (.processed (.text .wgsl "b\n"))⟩,
        ⟨.remove ⟨1⟩, .error (.unregistered ⟨1⟩)⟩] =
        ((start 1 [] (.empty [])).history 0 (own.map (.library 0))).map (Library.Call.rename σ) ∧
      ∃ library,
        ((start 1 [] (.empty [])).run (own.map (.library 0))).libraries[0]? = some library ∧
        ((start 2 [] (.empty [])).run interleaved).libraries[1]? = some (library.rename σ) := by
  have hi : 1 < 2 := by decide
  have howns : Library.OwnHandles ((start 2 [] (.empty [])).history 1 interleaved) := by
    decide +kernel
  exact library_isolated hi [] (.empty []) interleaved howns

end World

end ShaderPreprocessor
