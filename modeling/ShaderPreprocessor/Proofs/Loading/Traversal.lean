/-
Loads as depth-first traversals, without a bound on how deep they go.

* `Errand`: a path to load and the reference to register it under; the dependencies of a file are
  errands without a reference (`Session.dependencies`);
* `Session.enter`, `Session.refuse`, `Session.giveUp`: the session after a file was read and stored,
  after a file did not become a shader, and after a dependency of a stored file failed;
* `Traverses`: errands run in order from one session to another. A path that is loaded already is
  passed over, also if it is still waiting for its own dependencies; any other one is entered, and
  what it imports comes before the errands that are left;
* `loadFrom_succ`: one step of a bounded load in these words;
* `follows_loadFrom`: a bounded load that does not meet its bound is a traversal.
-/
import Mathlib.Tactic
import ShaderPreprocessor.Server

namespace ShaderPreprocessor

/-- A path to load, and the reference that it is to be registered under. -/
structure Errand where
  /-- The path. -/
  path : String
  /-- The reference. -/
  importPath : Option ImportRef

namespace Session

/-! ### The steps of a load -/

/-- What the file that a path names is read as. -/
def read (files : FileTree) (s : Session) (path : String) : Except LoadError Shader :=
  s.server.settings.readShader files (s.server.fullPath path)

/-- The session after the file of a path was read and stored. -/
def enter (s : Session) (path : String) (shader : Shader) : Session :=
  ((s.noteOpened (s.server.fullPath path)).register path shader).note
    (.loaded path s.supply.handle)

/-- The session after the file of a path did not become a shader. -/
def refuse (s : Session) (path : String) (e : LoadError) : Session :=
  if e.isFileFault then
    (s.noteOpened (s.server.fullPath path)).note (.loadFailed (s.server.fullPath path) e)
  else s.noteOpened (s.server.fullPath path)

/-- The session after a dependency of a stored path failed: the path is dropped if the fault is in a
file. -/
def giveUp (s : Session) (path : String) (h : Handle) (e : LoadError) : Session :=
  if e.isFileFault then s.unregister path h else s

/-- The paths that a shader asks for, if the server follows imports. -/
def dependencyPaths (s : Session) (shader : Shader) : List String :=
  if s.server.settings.followImports then assetPaths shader.imports else []

/-- Errands for paths that are to be registered under no name. -/
def unnamed (paths : List String) : List Errand := paths.map (⟨·, none⟩)

lemma map_path_unnamed (paths : List String) : (unnamed paths).map Errand.path = paths := by
  rw [unnamed, List.map_map]
  exact List.map_id _

/-- The errands that a shader makes necessary. -/
def dependencies (s : Session) (shader : Shader) : List Errand :=
  (s.dependencyPaths shader).map (⟨·, none⟩)

@[simp] lemma note_server (s : Session) (event : Event) : (s.note event).server = s.server := rfl

@[simp] lemma note_supply (s : Session) (event : Event) : (s.note event).supply = s.supply := rfl

@[simp] lemma note_events (s : Session) (event : Event) :
    (s.note event).events = s.events ++ [event] := rfl

@[simp] lemma noteOpened_server (s : Session) (path : Path) :
    (s.noteOpened path).server = s.server := by
  rw [noteOpened]
  split <;> rfl

@[simp] lemma noteOpened_supply (s : Session) (path : Path) :
    (s.noteOpened path).supply = s.supply := by
  rw [noteOpened]
  split <;> rfl

@[simp] lemma noteOpened_events (s : Session) (path : Path) :
    (s.noteOpened path).events = s.events := by
  rw [noteOpened]
  split <;> rfl

@[simp] lemma refuse_server (s : Session) (path : String) (e : LoadError) :
    (s.refuse path e).server = s.server := by
  rw [refuse]
  split <;> simp

@[simp] lemma refuse_supply (s : Session) (path : String) (e : LoadError) :
    (s.refuse path e).supply = s.supply := by
  rw [refuse]
  split <;> simp

/-! ### What the steps do to the tables -/

@[simp] lemma enter_supply (s : Session) (path : String) (shader : Shader) :
    (s.enter path shader).supply = s.supply.advance := by
  simp [enter, register]

@[simp] lemma enter_events (s : Session) (path : String) (shader : Shader) :
    (s.enter path shader).events = s.events ++ [.loaded path s.supply.handle] := by
  simp [enter, register]

lemma events_extend_enter (s : Session) (path : String) (shader : Shader) :
    s.events <+: (s.enter path shader).events := by
  rw [enter_events]
  exact List.prefix_append _ _

@[simp] lemma enter_settings (s : Session) (path : String) (shader : Shader) :
    (s.enter path shader).server.settings = s.server.settings := by
  simp [enter, register]

@[simp] lemma enter_root (s : Session) (path : String) (shader : Shader) :
    (s.enter path shader).server.root = s.server.root := by
  simp [enter, register]

/-- An entered path has the next handle, and all other paths are as before. -/
lemma enter_loaded (s : Session) (path other : String) (shader : Shader) :
    (s.enter path shader).server.loaded.get? other =
      if path = other then some s.supply.handle else s.server.loaded.get? other := by
  simp [enter, register, Table.get?_insert]

/-- The next handle has the shader of an entered path, and all other handles are as before. -/
lemma enter_shaders (s : Session) (path : String) (shader : Shader) (g : Handle) :
    (s.enter path shader).server.library.shaders.get? g =
      if s.supply.handle = g then some shader else s.server.library.shaders.get? g := by
  simp [enter, register, Library.add, Library.assign, Table.get?_insert]

/-- The next handle is what the asset reference of an entered path and the import path of its shader
stand for, and all other references are as before. -/
lemma enter_imports (s : Session) (path : String) (shader : Shader) (ref : ImportRef) :
    (s.enter path shader).server.library.imports.get? ref =
      if .asset path = ref ∨ shader.importPath = some ref then some s.supply.handle
      else s.server.library.imports.get? ref := by
  by_cases hasset : .asset path = ref
  · simp [enter, register, Library.assign, Table.get?_insert, hasset]
  · cases hown : shader.importPath with
    | none => simp [enter, register, Library.add, Library.assign, Table.get?_insert, hasset, hown]
    | some own =>
        simp [enter, register, Library.add, Library.assign, Table.get?_insert, hasset, hown]

@[simp] lemma giveUp_supply (s : Session) (path : String) (h : Handle) (e : LoadError) :
    (s.giveUp path h e).supply = s.supply := by
  rw [giveUp]
  split <;> rfl

@[simp] lemma giveUp_events (s : Session) (path : String) (h : Handle) (e : LoadError) :
    (s.giveUp path h e).events = s.events := by
  rw [giveUp]
  split <;> rfl

@[simp] lemma giveUp_settings (s : Session) (path : String) (h : Handle) (e : LoadError) :
    (s.giveUp path h e).server.settings = s.server.settings := by
  rw [giveUp]
  split <;> rfl

@[simp] lemma giveUp_root (s : Session) (path : String) (h : Handle) (e : LoadError) :
    (s.giveUp path h e).server.root = s.server.root := by
  rw [giveUp]
  split <;> rfl

/-- A dropped path is not loaded, and all other paths are as before. -/
lemma unregister_loaded (s : Session) (path other : String) (h : Handle) :
    (s.unregister path h).server.loaded.get? other =
      if path = other then none else s.server.loaded.get? other :=
  Table.get?_erase _ _ _

/-- The handle of a dropped path has no shader, and all other handles are as before. -/
lemma unregister_shaders (s : Session) (path : String) (h g : Handle) :
    (s.unregister path h).server.library.shaders.get? g =
      if h = g then none else s.server.library.shaders.get? g :=
  Table.get?_erase _ _ _

/-- No reference stands for a dropped handle, and what stands for another one still does. -/
lemma unregister_imports (s : Session) (path : String) (h g : Handle) (ref : ImportRef) :
    (s.unregister path h).server.library.imports.get? ref = some g ↔
      s.server.library.imports.get? ref = some g ∧ g ≠ h := by
  simp only [unregister, Library.remove, Table.get?_filter, Option.filter_eq_some_iff,
    decide_eq_true_eq]

/-! ### One step of a load -/

/-- One step of a bounded load: a loaded path is known, a file that does not become a shader ends
the load, and any other file is entered and its dependencies are loaded. -/
lemma loadFrom_succ (files : FileTree) (depth : ℕ) (path : String) (importPath : Option ImportRef)
    (s : Session) :
    loadFrom files (depth + 1) path importPath s =
      match s.server.loaded.get? path with
      | some h => (s, .ok h)
      | none =>
        match s.read files path with
        | .error e => (s.refuse path e, .error (.load e))
        | .ok shader =>
          settle path s.supply.handle
            (loadAll (fun path => loadFrom files depth path none) (s.dependencyPaths shader)
              (s.enter path { shader with importPath := importPath })) := by
  rw [loadFrom]
  cases s.server.loaded.get? path with
  | some h => rfl
  | none =>
      dsimp only
      change (match s.read files path with | .error e => _ | .ok shader => _) = _
      cases s.read files path with
      | error e => rfl
      | ok shader =>
          have hsettings := enter_settings s path { shader with importPath := importPath }
          dsimp only
          rw [dependencyPaths, ← hsettings]
          by_cases hfollow :
              (s.enter path { shader with importPath := importPath }).server.settings.followImports
          · rw [if_pos hfollow]
            exact if_pos hfollow
          · rw [if_neg hfollow]
            exact if_neg hfollow

end Session

/-! ### Traversals -/

/-- Errands run in order, up to the first that fails, from one session to another. -/
inductive Traverses (files : FileTree) :
    List Errand → Session → Session → Except LoadError Unit → Prop where
  /-- Nothing is left to do. -/
  | done (s : Session) : Traverses files [] s s (.ok ())
  /-- The path is loaded. -/
  | known {errand : Errand} {errands : List Errand} {s s' : Session} {r : Except LoadError Unit}
      {h : Handle} (hloaded : s.server.loaded.get? errand.path = some h)
      (hrest : Traverses files errands s s' r) : Traverses files (errand :: errands) s s' r
  /-- The file of the path does not become a shader. -/
  | refused {errand : Errand} {errands : List Errand} {s : Session} {e : LoadError}
      (hnew : s.server.loaded.get? errand.path = none)
      (hread : s.read files errand.path = .error e) :
      Traverses files (errand :: errands) s (s.refuse errand.path e) (.error e)
  /-- The path is entered, and its dependencies are loaded before the rest. -/
  | entered {errand : Errand} {errands : List Errand} {s s₁ s' : Session} {shader : Shader}
      {r : Except LoadError Unit} (hnew : s.server.loaded.get? errand.path = none)
      (hread : s.read files errand.path = .ok shader)
      (hdeps : Traverses files (s.dependencies shader)
        (s.enter errand.path { shader with importPath := errand.importPath }) s₁ (.ok ()))
      (hrest : Traverses files errands s₁ s' r) : Traverses files (errand :: errands) s s' r
  /-- The path is entered, and given up because of a dependency. -/
  | givenUp {errand : Errand} {errands : List Errand} {s s₁ : Session} {shader : Shader}
      {e : LoadError} (hnew : s.server.loaded.get? errand.path = none)
      (hread : s.read files errand.path = .ok shader)
      (hdeps : Traverses files (s.dependencies shader)
        (s.enter errand.path { shader with importPath := errand.importPath }) s₁ (.error e)) :
      Traverses files (errand :: errands) s (s₁.giveUp errand.path s.supply.handle e) (.error e)

namespace Traverses

open Session

variable {files : FileTree} {errand : Errand} {errands : List Errand} {s s₁ s' : Session}

/-- One errand that succeeds, and then the others. -/
lemma cons_ok {r : Except LoadError Unit} (hfirst : Traverses files [errand] s s₁ (.ok ()))
    (hrest : Traverses files errands s₁ s' r) : Traverses files (errand :: errands) s s' r := by
  cases hfirst with
  | known hloaded hdone =>
      cases hdone
      exact known hloaded hrest
  | entered hnew hread hdeps hdone =>
      cases hdone
      exact entered hnew hread hdeps hrest

/-- One errand that fails, and then no other. -/
lemma cons_error {e : LoadError} (hfirst : Traverses files [errand] s s' (.error e)) :
    Traverses files (errand :: errands) s s' (.error e) := by
  cases hfirst with
  | known hloaded hdone => cases hdone
  | refused hnew hread => exact refused hnew hread
  | entered hnew hread hdeps hdone => cases hdone
  | givenUp hnew hread hdeps => exact givenUp hnew hread hdeps

end Traverses

/-! ### What traversals leave -/

/-- A path that is not loaded is none of the loaded ones. -/
lemma ne_of_get? {loaded : Table String Handle} {path other : String} {g : Handle}
    (hnew : loaded.get? path = none) (hother : loaded.get? other = some g) : path ≠ other := by
  rintro rfl
  rw [hother] at hnew
  cases hnew

namespace Traverses

open Session

variable {files : FileTree} {errands : List Errand} {s s' : Session} {r : Except LoadError Unit}

/-- Where files are looked for and how they are read stays as it is. -/
lemma settings_root (h : Traverses files errands s s' r) :
    s'.server.settings = s.server.settings ∧ s'.server.root = s.server.root := by
  induction h with
  | done => exact ⟨rfl, rfl⟩
  | known _ _ ih => exact ih
  | refused => simp
  | entered _ _ _ _ ihdeps ihrest =>
      rw [ihrest.1, ihrest.2, ihdeps.1, ihdeps.2]
      simp
  | givenUp _ _ _ ihdeps =>
      rw [giveUp_settings, giveUp_root, ihdeps.1, ihdeps.2]
      simp

/-- Errands that succeed drop no path. -/
lemma loaded_of_ok (h : Traverses files errands s s' r) (hr : r = .ok ()) {path : String}
    {g : Handle} (hloaded : s.server.loaded.get? path = some g) :
    s'.server.loaded.get? path = some g := by
  induction h with
  | done => exact hloaded
  | known _ _ ih => exact ih hr hloaded
  | refused => cases hr
  | @entered errand _ s _ _ _ _ hnew _ _ _ ihdeps ihrest =>
      refine ihrest hr (ihdeps rfl ?_)
      rw [enter_loaded, if_neg (ne_of_get? hnew hloaded), hloaded]
  | givenUp => cases hr

/-- The path of an errand that succeeds is loaded in the end: under the handle it had, or under the
handle that was next when it was entered. -/
lemma loaded_head {errand : Errand} {rest : List Errand}
    (h : Traverses files (errand :: rest) s s' (.ok ())) :
    s'.server.loaded.get? errand.path =
      some ((s.server.loaded.get? errand.path).getD s.supply.handle) := by
  cases h with
  | known hloaded hrest =>
      rw [hrest.loaded_of_ok rfl hloaded, hloaded]
      rfl
  | entered hnew hread hdeps hrest =>
      rw [hnew, Option.getD_none]
      exact hrest.loaded_of_ok rfl (hdeps.loaded_of_ok rfl (by rw [enter_loaded, if_pos rfl]))

end Traverses

/-! ### Bounded loads -/

namespace Session

variable {files : FileTree}

/-- What a bounded load of one path comes to, if it does not meet its bound: a traversal to the same
session, after which the path has the handle that is answered. -/
structure Follows (files : FileTree) (errand : Errand) (s : Session)
    (result : Session × Except Failure Handle) : Prop where
  /-- A success is a traversal that succeeds, and tells the handle of the path. -/
  ok : ∀ h, result.2 = .ok h → Traverses files [errand] s result.1 (.ok ()) ∧
    result.1.server.loaded.get? errand.path = some h
  /-- A failure is a traversal that fails, unless the bound is met. -/
  error : ∀ f, result.2 = .error f → f ≠ .endless →
    ∃ e, f = .load e ∧ Traverses files [errand] s result.1 (.error e)

/-- The same for several paths in order. -/
structure FollowsAll (files : FileTree) (errands : List Errand) (s : Session)
    (result : Session × Except Failure Unit) : Prop where
  /-- A success is a traversal that succeeds. -/
  ok : result.2 = .ok () → Traverses files errands s result.1 (.ok ())
  /-- A failure is a traversal that fails, unless the bound is met. -/
  error : ∀ f, result.2 = .error f → f ≠ .endless →
    ∃ e, f = .load e ∧ Traverses files errands s result.1 (.error e)

/-- Paths are traversed in order if each one of them is. -/
lemma followsAll_of_follows {load : String → Session → Session × Except Failure Handle}
    (hload : ∀ path s, Follows files ⟨path, none⟩ s (load path s)) (paths : List String)
    (s : Session) : FollowsAll files (paths.map (⟨·, none⟩)) s (loadAll load paths s) := by
  induction paths generalizing s with
  | nil => exact ⟨fun _ => .done s, fun f hf => by cases hf⟩
  | cons path paths ih =>
      have hfirst := hload path s
      rw [loadAll]
      cases hresult : load path s with
      | mk s₁ r =>
          rw [hresult] at hfirst
          cases r with
          | ok h =>
              have htraverse := (hfirst.ok h rfl).1
              refine ⟨fun hok => htraverse.cons_ok ((ih s₁).ok hok), fun f hf hne => ?_⟩
              obtain ⟨e, rfl, hrest⟩ := (ih s₁).error f hf hne
              exact ⟨e, rfl, htraverse.cons_ok hrest⟩
          | error f =>
              refine ⟨fun hok => (by cases hok), fun f' hf' hne => ?_⟩
              cases hf'
              obtain ⟨e, rfl, htraverse⟩ := hfirst.error f rfl hne
              exact ⟨e, rfl, htraverse.cons_error⟩

/-- A bounded load is a traversal of one errand. -/
lemma follows_loadFrom (files : FileTree) (depth : ℕ) (errand : Errand) (s : Session) :
    Follows files errand s (loadFrom files depth errand.path errand.importPath s) := by
  induction depth generalizing errand s with
  | zero =>
      refine ⟨fun h hok => (by cases hok), fun f hf hne => ?_⟩
      cases hf
      exact absurd rfl hne
  | succ depth ih =>
      rw [loadFrom_succ]
      split
      · next h hloaded =>
          refine ⟨fun h' hok => ?_, fun f hf => by cases hf⟩
          cases hok
          exact ⟨.known hloaded (.done s), hloaded⟩
      · next hnew =>
          split
          · next e hread =>
              refine ⟨fun h' hok => (by cases hok), fun f hf hne => ?_⟩
              cases hf
              exact ⟨e, rfl, .refused hnew hread⟩
          · next shader hread =>
              have hall := followsAll_of_follows (fun path s => ih ⟨path, none⟩ s)
                (s.dependencyPaths shader)
                (s.enter errand.path { shader with importPath := errand.importPath })
              cases hdeps : loadAll (fun path => loadFrom files depth path none)
                  (s.dependencyPaths shader)
                  (s.enter errand.path { shader with importPath := errand.importPath }) with
              | mk s₁ r =>
                  rw [hdeps] at hall
                  cases r with
                  | ok u =>
                      have htraverse : Traverses files [errand] s s₁ (.ok ()) :=
                        .entered hnew hread (hall.ok rfl) (.done s₁)
                      refine ⟨fun h' hok => ?_, fun f hf => by cases hf⟩
                      cases hok
                      refine ⟨htraverse, ?_⟩
                      have hhead := htraverse.loaded_head
                      rw [hnew] at hhead
                      exact hhead
                  | error f =>
                      refine ⟨fun h' hok => ?_, fun f' hf' hne => ?_⟩
                      · cases f <;> cases hok
                      · have heq : f' = f := by cases f <;> (cases hf'; rfl)
                        subst heq
                        obtain ⟨e, rfl, hfail⟩ := hall.error f' rfl hne
                        exact ⟨e, rfl, .givenUp hnew hread hfail⟩

end Session

end ShaderPreprocessor
