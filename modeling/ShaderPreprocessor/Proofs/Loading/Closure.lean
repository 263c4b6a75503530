/-
Whether all that the stored shaders of a server ask for is there.

* `Server.Closed`: every asset reference in a stored shader leads to a stored shader;
* `Server.Works.dependency`: what an action leaves of the dependencies of a shader that it stores;
* `World.Withdraws`: an action stores a shader while a file that it asks for is still being loaded,
  and drops the file afterwards because it fails;
* `World.run_dependency`: each dependency of a stored shader is loaded, or was withdrawn once;
* `World.run_closed_of_no_failure`: a server that follows imports is closed if no load fails;
* `World.run_closed_iff`: a server that follows imports is closed exactly if all that was withdrawn
  from its shaders is loaded again, and `World.not_closed_of_cycle`: it need not be.
-/
import ShaderPreprocessor.Proofs.Loading.Runs

namespace ShaderPreprocessor

/-! ### Closed servers -/

/-- Every asset reference in a stored shader leads to a stored shader. -/
def Server.Closed (server : Server) : Prop :=
  ∀ h shader, server.library.shaders.get? h = some shader →
    ∀ path ∈ assetPaths shader.imports, (server.library.resolve? (.asset path)).isSome

instance (server : Server) : Decidable server.Closed :=
  decidable_of_iff (∀ entry ∈ server.library.shaders.entries,
    ∀ path ∈ assetPaths entry.2.imports, (server.library.resolve? (.asset path)).isSome)
    ⟨fun hall h _ hstored => hall (h, _) (Table.mem_entries_iff.2 hstored),
      fun hclosed entry hentry => hclosed entry.1 entry.2 (Table.mem_entries_iff.1 hentry)⟩

/-- An asset reference leads to a stored shader exactly if its path is loaded. -/
lemma Server.Linked.resolve_asset_iff {supply : Supply} {server : Server}
    (hlinked : server.Linked supply) (path : String) :
    (server.library.resolve? (.asset path)).isSome ↔
      ∃ g, server.loaded.get? path = some g := by
  constructor
  · intro hsome
    obtain ⟨⟨g, shader⟩, hresolve⟩ := Option.isSome_iff_exists.1 hsome
    obtain ⟨g', himport, -⟩ := Option.bind_eq_some_iff.1 hresolve
    exact ⟨g', (hlinked.asset path g').1 himport⟩
  · rintro ⟨g, hg⟩
    obtain ⟨shader, hshader⟩ := (hlinked.stored g).2 ⟨path, hg⟩
    rw [Library.resolve?, (hlinked.asset path g).2 hg, Option.bind_some, hshader]
    rfl

/-- Each dependency of a shader that an action stores is loaded in the end, or the action fails on a
file and has announced the dependency before the shader. -/
lemma Server.Works.dependency {files : FileTree} {supply supply' : Supply}
    {server server' : Server} {answer : Answering} {h : Handle} {shader : Shader} {path : String}
    (hworks : server.Works files supply supply' server' answer) (hlinked : server.Linked supply)
    (hfollow : server.settings.followImports = true)
    (hfree : server.library.shaders.get? h = none)
    (hstored : server'.library.shaders.get? h = some shader)
    (hpath : path ∈ assetPaths shader.imports) :
    (∃ g, server'.loaded.get? path = some g) ∨
      (∃ e, answer.outcome = .error (.load e)) ∧
        ∃ other g, [.loaded path g, .loaded other h].Sublist answer.events := by
  cases hworks with
  | rests =>
      rw [hfree] at hstored
      cases hstored
  | @loads other importPath s r answer hcustom htraverse hfails =>
      have hclaims := custom_of_claims other hcustom
      have hsupports := htraverse.supports hclaims hlinked hfollow hfree hstored
      obtain hloaded | ⟨⟨e, he⟩, hsublist⟩ := hsupports.dependency path hpath
      · exact .inl hloaded
      · rw [hfails e he]
        exact .inr ⟨⟨e, rfl⟩, hsublist⟩

/-! ### Runs -/

namespace World

/-- An action withdraws a path from the shader of a handle: it announces the path, then stores the
shader under the handle, and fails in the end and leaves the path not loaded. -/
structure Withdraws (world : World) (i : ℕ) (action : Action) (h : Handle) (path : String) :
    Prop where
  /-- The action fails on a file. -/
  failed : ∃ e, (world.act action).2.outcome = .error (.load e)
  /-- The path was entered, and the shader stored after it. -/
  announced : ∃ other g, [.loaded path g, .loaded other h].Sublist (world.act action).2.events
  /-- The path is not loaded afterwards. -/
  dropped : ∃ server, (world.act action).1.servers[i]? = some server ∧
    server.loaded.get? path = none

/-- Some action of a run withdraws a path from the shader of a handle. -/
def Withdrawn (world : World) (i : ℕ) (actions : List Action) (h : Handle) (path : String) :
    Prop :=
  ∃ front action rest, actions = front ++ action :: rest ∧
    (world.run front).Withdraws i action h path

variable {world : World} {i : ℕ} {root : Path} {settings : Settings} {actions : List Action}

/-- What was withdrawn stays so. -/
lemma Withdrawn.snoc {h : Handle} {path : String} (hwithdrawn : world.Withdrawn i actions h path)
    (last : Action) : world.Withdrawn i (actions ++ [last]) h path := by
  obtain ⟨front, action, rest, rfl, hwithdraws⟩ := hwithdrawn
  exact ⟨front, action, rest ++ [last], by simp, hwithdraws⟩

/-- After every run, each dependency of a stored shader is loaded, or was withdrawn from it. -/
lemma run_dependency {server : Server} (hnew : world.servers[i]? = some (.new root settings))
    (hfollow : settings.followImports = true) (hserves : ∀ action ∈ actions, action.Serves i)
    (hserver : (world.run actions).servers[i]? = some server) {h : Handle} {shader : Shader}
    (hstored : server.library.shaders.get? h = some shader) {path : String}
    (hpath : path ∈ assetPaths shader.imports) :
    (∃ g, server.loaded.get? path = some g) ∨ world.Withdrawn i actions h path := by
  induction actions using List.reverseRecOn generalizing server with
  | nil =>
      rw [run, List.foldl_nil, hnew] at hserver
      cases hserver
      cases hstored
  | append_singleton actions action ih =>
      have hfront : ∀ other ∈ actions, other.Serves i :=
        fun other hother => hserves other (List.mem_append_left _ hother)
      obtain ⟨before, hbefore, hlinked, hsettings, -⟩ := run_linked hnew hfront
      obtain ⟨after, hafter, hworks⟩ := act_works hbefore (hserves action (by simp))
      have hkeeps := (hworks.linked_and_keeps hlinked).2
      rw [run_snoc, hafter] at hserver
      cases hserver
      cases hshader : before.library.shaders.get? h with
      | some shader' =>
          -- stored before the last action
          have heq := hkeeps.stored h shader' hshader
          rw [hstored] at heq
          cases heq
          obtain ⟨g, hg⟩ | hwithdrawn := ih hfront hbefore hshader
          · exact .inl ⟨g, hkeeps.loaded path g hg⟩
          · exact .inr (hwithdrawn.snoc action)
      | none =>
          -- stored by the last action
          rw [← hsettings] at hfollow
          obtain hloaded | ⟨hfailed, hannounced⟩ :=
            hworks.dependency hlinked hfollow hshader hstored hpath
          · exact .inl hloaded
          · cases hdropped : server.loaded.get? path with
            | some g => exact .inl ⟨g, rfl⟩
            | none =>
                refine .inr ⟨actions, action, [], rfl, hfailed, hannounced, ?_⟩
                exact ⟨server, hafter, hdropped⟩

/-- A server that follows imports is closed after a run in which no load fails on a file. -/
theorem run_closed_of_no_failure {server : Server}
    (hnew : world.servers[i]? = some (.new root settings))
    (hfollow : settings.followImports = true) (hserves : ∀ action ∈ actions, action.Serves i)
    (hserver : (world.run actions).servers[i]? = some server)
    (hgood : ∀ front action rest, actions = front ++ action :: rest →
      ∀ e, ((world.run front).act action).2.outcome ≠ .error (.load e)) : server.Closed := by
  have hlinked := (linked_of_run hnew hserves hserver).1
  intro h shader hstored path hpath
  obtain hloaded | ⟨front, action, rest, hsplit, hwithdraws⟩ :=
    run_dependency hnew hfollow hserves hserver hstored hpath
  · exact (hlinked.resolve_asset_iff path).2 hloaded
  · obtain ⟨e, he⟩ := hwithdraws.failed
    exact absurd he (hgood front action rest hsplit e)

/-- **When a server is closed.** A server that follows imports is closed after a run exactly if
whatever a failed load has withdrawn from a stored shader is loaded again. -/
theorem run_closed_iff {server : Server} (hnew : world.servers[i]? = some (.new root settings))
    (hfollow : settings.followImports = true) (hserves : ∀ action ∈ actions, action.Serves i)
    (hserver : (world.run actions).servers[i]? = some server) :
    server.Closed ↔
      ∀ h shader, server.library.shaders.get? h = some shader →
        ∀ path ∈ assetPaths shader.imports, world.Withdrawn i actions h path →
          ∃ g, server.loaded.get? path = some g := by
  have hlinked := (linked_of_run hnew hserves hserver).1
  constructor
  · intro hclosed h shader hstored path hpath _
    exact (hlinked.resolve_asset_iff path).1 (hclosed h shader hstored path hpath)
  · intro hagain h shader hstored path hpath
    refine (hlinked.resolve_asset_iff path).2 ?_
    obtain hloaded | hwithdrawn := run_dependency hnew hfollow hserves hserver hstored hpath
    · exact hloaded
    · exact hagain h shader hstored path hpath hwithdrawn

/-- Two files that ask for one another, the first one also for a file that does not exist. -/
def unfinishedCycle : World :=
  ofFiles [("a.wgsl", "#import \"b.wgsl\"\n#import \"missing.wgsl\"\n"),
    ("b.wgsl", "#import \"a.wgsl\"\nb\n")]

/-- When the first file is loaded it is dropped in the end, and the second one stays. -/
theorem not_closed_of_cycle :
    ∃ server ∈ (unfinishedCycle.run [.load 0 "a.wgsl" none]).servers[0]?,
      server.settings.followImports = true ∧ ¬ server.Closed := by
  decide +kernel

/-- The same, with the first file loaded again when it asks for nothing. The server is closed then,
and what was withdrawn is loaded again. -/
theorem closed_iff_after_repair :
    ∃ server, (unfinishedCycle.run [.load 0 "a.wgsl" none, .write (.ofText "a.wgsl") [],
        .load 0 "a.wgsl" none]).servers[0]? = some server ∧ server.Closed ∧
      (server.Closed ↔
        ∀ h shader, server.library.shaders.get? h = some shader →
          ∀ path ∈ assetPaths shader.imports,
            unfinishedCycle.Withdrawn 0 [.load 0 "a.wgsl" none, .write (.ofText "a.wgsl") [],
              .load 0 "a.wgsl" none] h path →
            ∃ g, server.loaded.get? path = some g) := by
  have hnew : unfinishedCycle.servers[0]? = some (.new (.ofText "") {}) := rfl
  have hserves : ∀ action ∈ [Action.load 0 "a.wgsl" none, .write (.ofText "a.wgsl") [],
      .load 0 "a.wgsl" none], action.Serves 0 := by
    simp [Action.Serves]
  obtain ⟨server, hserver, hclosed⟩ : ∃ server ∈ (unfinishedCycle.run [.load 0 "a.wgsl" none,
      .write (.ofText "a.wgsl") [], .load 0 "a.wgsl" none]).servers[0]?, server.Closed := by
    decide +kernel
  exact ⟨server, hserver, hclosed, run_closed_iff hnew rfl hserves hserver⟩

end World

end ShaderPreprocessor
