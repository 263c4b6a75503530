/-
What a load that fails takes away.

A path that is dropped takes every reference with it that stands for its handle. One of them is the
name that the load was to register, which stood for another shader perhaps before.

* `Server.TakesOver`: a load takes a reference over from what it stood for: it is to register the
  reference, and gets so far as to store the shader of its path;
* `Traverses.resolve_eq_none`, `Traverses.resolve_of_error`: after a failure a reference that was
  taken over leads nowhere, and any other one leads where it did;
* `World.resolve_after_failed_load`: this for every load that fails after any run, and
  `World.name_lost_by_failed_load`: a name can be lost.
-/
import ShaderPreprocessor.Proofs.Loading.Runs

namespace ShaderPreprocessor

open Session

/-! ### References taken over -/

/-- A load of a path takes a reference over: the reference is the one to be registered, and the file
of the path can be read. -/
def Server.TakesOver (server : Server) (files : FileTree) (path : String)
    (importPath : Option ImportRef) (ref : ImportRef) : Prop :=
  importPath = some ref ∧
    ∃ shader, server.settings.readShader files (server.fullPath path) = .ok shader

namespace Traverses

variable {files : FileTree} {s s' : Session} {path : String} {importPath : Option ImportRef}
  {ref : ImportRef} {e : LoadError}

/-- A reference that was taken over by a load that fails leads nowhere. -/
lemma resolve_eq_none (h : Traverses files [⟨path, importPath⟩] s s' (.error e))
    (hcustom : ∀ ref, importPath = some ref → ref.IsCustom)
    (hlinked : s.server.Linked s.supply) (htakes : s.server.TakesOver files path importPath ref) :
    s'.server.library.resolve? ref = none := by
  obtain ⟨hclaim, shader, hshader⟩ := htakes
  cases h with
  | known _ hdone => cases hdone
  | entered _ _ _ hdone => cases hdone
  | refused _ hread =>
      change s.read files path = .ok shader at hshader
      rw [hread] at hshader
      cases hshader
  | @givenUp _ _ _ s₁ read _ hnew hread hdeps =>
      -- the reference still stands for the handle that is dropped
      have hbound : s₁.server.library.imports.get? ref = some s.supply.handle :=
        hdeps.bound_after_dependencies hcustom hlinked hnew (.inr hclaim)
      have hnone : (s₁.unregister path s.supply.handle).server.library.imports.get? ref = none := by
        refine Option.eq_none_iff_forall_ne_some.2 fun g hg => ?_
        obtain ⟨hg', hne⟩ := (unregister_imports _ _ _ _ _).1 hg
        rw [hbound] at hg'
        exact hne (Option.some.inj hg').symm
      rw [giveUp, if_pos (isFileFault_of_dependencies hread hdeps), Library.resolve?, hnone]
      rfl

/-- A reference that was not taken over by a load that fails leads where it did. -/
lemma resolve_of_error (h : Traverses files [⟨path, importPath⟩] s s' (.error e))
    (hcustom : ∀ ref, importPath = some ref → ref.IsCustom)
    (hlinked : s.server.Linked s.supply) (hkept : ¬ s.server.TakesOver files path importPath ref)
    {g : Handle} {shader : Shader} (hresolve : s.server.library.resolve? ref = some (g, shader)) :
    s'.server.library.resolve? ref = some (g, shader) := by
  obtain ⟨-, hkeeps⟩ := h.linked_and_keeps (custom_of_claims path hcustom) hlinked
  by_cases hclaim : importPath = some ref
  · -- nothing was stored for the path
    have hunread : ∀ read, s.read files path ≠ .ok read :=
      fun read hread => hkept ⟨hclaim, read, hread⟩
    cases h with
    | known _ hdone => cases hdone
    | entered _ hread _ _ => exact absurd hread (hunread _)
    | refused => rw [refuse_server, hresolve]
    | givenUp _ hread _ => exact absurd hread (hunread _)
  · refine hkeeps.resolve ?_ hresolve
    rintro ⟨errand, hmem, href⟩
    cases List.mem_singleton.1 hmem
    exact hclaim href

end Traverses

/-! ### Runs -/

namespace World

variable {world : World} {i : ℕ} {root : Path} {settings : Settings} {actions : List Action}

/-- A load that fails on a file is a traversal that fails. -/
lemma traverses_of_failed_load {server : Server} {path : String} {importPath : Option ImportRef}
    {e : LoadError} (hserver : world.servers[i]? = some server)
    (hfails : (world.act (.load i path importPath)).2.outcome = .error (.load e)) :
    ∃ s, Traverses world.files [⟨path, importPath⟩] (.start world.supply server) s (.error e) ∧
      (world.act (.load i path importPath)).1.servers[i]? = some s.server := by
  rw [act_load hserver] at hfails ⊢
  obtain ⟨h, hresult, -, -⟩ | ⟨e', hresult, htraverse⟩ :=
    Session.load_traverses world.files path importPath (.start world.supply server)
  · simp only [answer, hresult] at hfails
    cases hfails
  · simp only [answer, hresult] at hfails
    cases hfails
    exact ⟨_, htraverse, getElem?_set_self hserver⟩

/-- **What a failed load takes away.** After a load that fails on a file, all paths that were loaded
have the handles they had. A reference that led to a shader leads nowhere if the load took it over,
and to the same shader under the same handle if not. -/
theorem resolve_after_failed_load {server : Server} {path : String} {name : Option String}
    {e : LoadError} (hnew : world.servers[i]? = some (.new root settings))
    (hserves : ∀ action ∈ actions, action.Serves i)
    (hserver : (world.run actions).servers[i]? = some server)
    (hfails : ((world.run actions).act (.load i path (name.map .custom))).2.outcome =
      .error (.load e)) :
    ∃ server',
      ((world.run actions).act (.load i path (name.map .custom))).1.servers[i]? = some server' ∧
      (∀ other h, server.loaded.get? other = some h → server'.loaded.get? other = some h) ∧
      ∀ ref h shader, server.library.resolve? ref = some (h, shader) →
        (server.TakesOver (world.run actions).files path (name.map .custom) ref →
          server'.library.resolve? ref = none) ∧
        (¬ server.TakesOver (world.run actions).files path (name.map .custom) ref →
          server'.library.resolve? ref = some (h, shader)) := by
  have hlinked := (linked_of_run hnew hserves hserver).1
  have hcustom : ∀ ref, name.map ImportRef.custom = some ref → ref.IsCustom := by
    intro ref href
    obtain ⟨name', -, rfl⟩ := Option.map_eq_some_iff.1 href
    exact ⟨name', rfl⟩
  obtain ⟨s, htraverse, hserver'⟩ := traverses_of_failed_load hserver hfails
  obtain ⟨-, hkeeps⟩ := htraverse.linked_and_keeps (custom_of_claims path hcustom) hlinked
  refine ⟨s.server, hserver', hkeeps.loaded, fun ref h shader hresolve => ⟨?_, ?_⟩⟩
  · exact fun htakes => htraverse.resolve_eq_none hcustom hlinked htakes
  · exact fun hkept => htraverse.resolve_of_error hcustom hlinked hkept hresolve

/-- Two files, the second one asking for a file that does not exist. -/
def unfinishedSecond : World :=
  ofFiles [("x.wgsl", "x\n"), ("y.wgsl", "#import \"missing.wgsl\"\n")]

/-- The name of a loaded file is lost by a load of another file under the same name. -/
theorem name_lost_by_failed_load :
    ∃ server ∈ (unfinishedSecond.run [.load 0 "x.wgsl" (some (.custom "lib"))]).servers[0]?,
      ∃ server' ∈ ((unfinishedSecond.run [.load 0 "x.wgsl" (some (.custom "lib"))]).act
          (.load 0 "y.wgsl" (some (.custom "lib")))).1.servers[0]?,
        (server.library.resolve? (.custom "lib")).isSome ∧
          server'.library.resolve? (.custom "lib") = none := by
  decide +kernel

/-- All but that name is left by the same load. -/
theorem rest_kept_by_failed_load :
    ∃ server server',
      (unfinishedSecond.run [.load 0 "x.wgsl" (some (.custom "lib"))]).servers[0]? = some server ∧
      ((unfinishedSecond.run [.load 0 "x.wgsl" (some (.custom "lib"))]).act
        (.load 0 "y.wgsl" (some (.custom "lib")))).1.servers[0]? = some server' ∧
      ∀ ref h shader, ref ≠ .custom "lib" → server.library.resolve? ref = some (h, shader) →
        server'.library.resolve? ref = some (h, shader) := by
  have hnew : unfinishedSecond.servers[0]? = some (.new (.ofText "") {}) := rfl
  have hserves : ∀ action ∈ [Action.load 0 "x.wgsl" (some (.custom "lib"))], action.Serves 0 := by
    simp [Action.Serves, ImportRef.IsCustom]
  have hfails : ((unfinishedSecond.run [.load 0 "x.wgsl" (some (.custom "lib"))]).act
      (.load 0 "y.wgsl" ((some "lib").map .custom))).2.outcome =
        .error (.load (.access (.system .notFound (.ofText "missing.wgsl")))) := by
    decide +kernel
  obtain ⟨server, hserver, -⟩ := run_linked hnew hserves
  obtain ⟨server', hserver', -, hrefs⟩ :=
    resolve_after_failed_load hnew hserves hserver hfails
  refine ⟨server, server', hserver, hserver', fun ref h shader hne hresolve => ?_⟩
  refine (hrefs ref h shader hresolve).2 fun htakes => hne ?_
  exact (Option.some.inj htakes.1).symm

end World

end ShaderPreprocessor
