/-
What the references of a path stand for after it is loaded.

* `Traverses.bound_of_entered`: a path that is entered is what its asset reference and the reference
  to be registered stand for, whatever is loaded after it for its sake;
* `World.references_after_load`: what they stand for after every load that succeeds, after any run.
  The name to be registered is passed over if the path was loaded before, and
  `World.name_dropped_for_loaded_path`: it may stand for nothing then.
-/
import ShaderPreprocessor.Proofs.Loading.Runs

namespace ShaderPreprocessor

open Session

/-! ### References of an entered path -/

/-- A path that is entered is what its asset reference and the reference to be registered stand for,
also after its dependencies are loaded. -/
lemma Traverses.bound_of_entered {files : FileTree} {errand : Errand} {s s' : Session}
    (h : Traverses files [errand] s s' (.ok ()))
    (hcustom : ∀ ref, errand.importPath = some ref → ref.IsCustom)
    (hlinked : s.server.Linked s.supply) (hnew : s.server.loaded.get? errand.path = none)
    {ref : ImportRef} (href : .asset errand.path = ref ∨ errand.importPath = some ref) :
    s'.server.library.imports.get? ref = some s.supply.handle := by
  cases h with
  | known hloaded _ =>
      rw [hnew] at hloaded
      cases hloaded
  | @entered _ _ _ s₁ _ shader _ _ hread hdeps hdone =>
      cases hdone
      exact hdeps.bound_after_dependencies hcustom hlinked hnew href

/-! ### Runs -/

namespace World

variable {world : World} {i : ℕ} {root : Path} {settings : Settings} {actions : List Action}

/-- A load that answers a handle is a traversal that succeeds, after which the path has the
handle. -/
lemma traverses_of_load {server : Server} {path : String} {importPath : Option ImportRef}
    {h : Handle} (hserver : world.servers[i]? = some server)
    (hloads : (world.act (.load i path importPath)).2.outcome = .ok (.handle h)) :
    ∃ s, Traverses world.files [⟨path, importPath⟩] (.start world.supply server) s (.ok ()) ∧
      (world.act (.load i path importPath)).1.servers[i]? = some s.server ∧
      s.server.loaded.get? path = some h := by
  rw [act_load hserver] at hloads ⊢
  obtain ⟨g, hresult, hloaded, htraverse⟩ | ⟨e, hresult, -⟩ :=
    Session.load_traverses world.files path importPath (.start world.supply server)
  · simp only [answer, hresult] at hloads
    cases hloads
    exact ⟨_, htraverse, getElem?_set_self hserver, hloaded⟩
  · simp only [answer, hresult] at hloads
    cases hloads

/-- **What a load registers.** After a load that succeeds, the asset reference of its path stands
for the handle that is answered. So does the name that was to be registered, if the path was not
loaded before; if it was, the name stands for what it stood for, or for nothing. -/
theorem references_after_load {server : Server} {path name : String} {h : Handle}
    (hnew : world.servers[i]? = some (.new root settings))
    (hserves : ∀ action ∈ actions, action.Serves i)
    (hserver : (world.run actions).servers[i]? = some server)
    (hloads : ((world.run actions).act (.load i path (some (.custom name)))).2.outcome =
      .ok (.handle h)) :
    ∃ server',
      ((world.run actions).act (.load i path (some (.custom name)))).1.servers[i]? =
        some server' ∧
      server'.library.imports.get? (.asset path) = some h ∧
      server'.library.imports.get? (.custom name) =
        if server.loaded.get? path = none then some h
        else server.library.imports.get? (.custom name) := by
  have hlinked := (linked_of_run hnew hserves hserver).1
  have hcustom : ∀ ref, some (ImportRef.custom name) = some ref → ref.IsCustom := by
    rintro ref ⟨⟩
    exact ⟨name, rfl⟩
  obtain ⟨s, htraverse, hserver', hloaded⟩ := traverses_of_load hserver hloads
  have hlinked' := (htraverse.linked_and_keeps (custom_of_claims path hcustom) hlinked).1
  have hasset := (hlinked'.asset path h).2 hloaded
  refine ⟨s.server, hserver', hasset, ?_⟩
  by_cases hpath : server.loaded.get? path = none
  · -- both references were bound to one handle when the path was entered
    have hown := htraverse.bound_of_entered hcustom hlinked hpath (.inl rfl)
    have hname := htraverse.bound_of_entered hcustom hlinked hpath (.inr rfl)
    rw [if_pos hpath, hname, ← hown, hasset]
  · rw [if_neg hpath]
    cases htraverse with
    | known _ hdone =>
        cases hdone
        rfl
    | entered hunloaded => exact absurd hunloaded hpath

/-- A file that asks for another one. -/
def fileWithDependency : World :=
  ofFiles [("main.wgsl", "#import \"part.wgsl\"\n"), ("part.wgsl", "part\n")]

/-- A file that was loaded as a dependency is loaded again under a name. The load succeeds, and the
name stands for nothing. -/
theorem name_dropped_for_loaded_path :
    ((fileWithDependency.run [.load 0 "main.wgsl" none]).act
        (.load 0 "part.wgsl" (some (.custom "lib")))).2.outcome = .ok (.handle ⟨1⟩) ∧
      ∃ server ∈ ((fileWithDependency.run [.load 0 "main.wgsl" none]).act
          (.load 0 "part.wgsl" (some (.custom "lib")))).1.servers[0]?,
        server.library.imports.get? (.custom "lib") = none := by
  decide +kernel

/-- By another spelling of its path the same file is loaded anew, and gets the name. -/
theorem name_bound_for_other_spelling :
    ∃ server, ((fileWithDependency.run [.load 0 "main.wgsl" none]).act
        (.load 0 "./part.wgsl" (some (.custom "lib")))).1.servers[0]? = some server ∧
      server.library.imports.get? (.asset "./part.wgsl") = some ⟨2⟩ ∧
      server.library.imports.get? (.custom "lib") = some ⟨2⟩ := by
  have hnew : fileWithDependency.servers[0]? = some (.new (.ofText "") {}) := rfl
  have hserves : ∀ action ∈ [Action.load 0 "main.wgsl" none], action.Serves 0 := by
    simp [Action.Serves]
  have hloads : ((fileWithDependency.run [.load 0 "main.wgsl" none]).act
      (.load 0 "./part.wgsl" (some (.custom "lib")))).2.outcome = .ok (.handle ⟨2⟩) := by
    decide +kernel
  have hunloaded : ((fileWithDependency.run [.load 0 "main.wgsl" none]).servers[0]?.map
      fun server => server.loaded.get? "./part.wgsl") = some none := by
    decide +kernel
  obtain ⟨server, hserver, -⟩ := run_linked hnew hserves
  rw [hserver, Option.map_some, Option.some.injEq] at hunloaded
  obtain ⟨server', hserver', hasset, hname⟩ := references_after_load hnew hserves hserver hloads
  rw [if_pos hunloaded] at hname
  exact ⟨server', hserver', hasset, hname⟩

end World

end ShaderPreprocessor
