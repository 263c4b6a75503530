/-
Loads of new paths are depth-first traversals.

* `Traverses.explores_preorder`: a traversal from a new path that succeeds enters what can be
  reached from it without going by loaded paths, in depth-first preorder;
* `World.load_goes_by_preorder`: every load of a new path ends, after any run, and does this if it
  succeeds.
-/
import ShaderPreprocessor.Proofs.Loading.Exploration
import ShaderPreprocessor.Proofs.Loading.Runs

namespace ShaderPreprocessor

open Session

/-- A traversal from a path that is not loaded enters, if it succeeds, what can be reached from the
path without going by loaded paths, in depth-first preorder. -/
lemma Traverses.explores_preorder {files : FileTree} {path : String}
    {importPath : Option ImportRef} {s s' : Session}
    (h : Traverses files [⟨path, importPath⟩] s s' (.ok ()))
    (hcustom : ∀ ref, importPath = some ref → ref.IsCustom) (hlinked : s.server.Linked s.supply)
    (hfollow : s.server.settings.followImports = true)
    (hnew : s.server.loaded.get? path = none) :
    ∃ order, IsPreorder (s.server.asksNew files) path order ∧
      s.Explores files [⟨path, importPath⟩] s' order := by
  obtain ⟨order, hexplores, hvisits⟩ :=
    h.explores rfl (custom_of_claims path hcustom) hlinked (.refl s)
  rw [List.map_singleton, Server.missing_cons_of_none hnew, Server.pursued_of_follow hfollow]
    at hvisits
  exact ⟨order, hvisits.isPreorder, hexplores⟩

namespace World

variable {world : World} {i : ℕ} {root : Path} {settings : Settings} {actions : List Action}

/-- **What a load does.** After every run, a load of a path that is not loaded ends: its bound is
not met, and any larger one makes no difference. If it succeeds, there is one list of paths, the
depth-first preorder of what can be reached from the path by imports without going by loaded paths,
and the load has entered these paths in this order: it has read each of their files once, stored
what it read under the next handle, and told of it. Nothing that was loaded before has changed. -/
theorem load_goes_by_preorder {server : Server} {path : String} (name : Option String)
    (hnew : world.servers[i]? = some (.new root settings))
    (hfollow : settings.followImports = true) (hserves : ∀ action ∈ actions, action.Serves i)
    (hserver : (world.run actions).servers[i]? = some server)
    (hunloaded : server.loaded.get? path = none) :
    let files := (world.run actions).files
    let s := Session.start (world.run actions).supply server
    let result := s.load files path (name.map .custom)
    result.2 ≠ .error .endless ∧
    (∀ depth, depthBound server.settings files ≤ depth →
      s.loadFrom files depth path (name.map .custom) = result) ∧
    ∀ h, result.2 = .ok h → h = s.supply.handle ∧ ∃ order,
      (∀ order', IsPreorder (server.asksNew files) path order' ↔ order' = order) ∧
      s.Explores files [⟨path, name.map .custom⟩] result.1 order := by
  intro files s result
  obtain ⟨hlinked, hsettings, -⟩ := linked_of_run hnew hserves hserver
  have hcustom : ∀ ref, name.map ImportRef.custom = some ref → ref.IsCustom := by
    intro ref href
    obtain ⟨name', -, rfl⟩ := Option.map_eq_some_iff.1 href
    exact ⟨name', rfl⟩
  refine ⟨load_ne_endless _ _ _ _, fun depth hdepth => loadFrom_eq_load s hdepth _ _,
    fun h hok => ?_⟩
  obtain ⟨g, hresult, hloaded, htraverse⟩ | ⟨e, hresult, -⟩ :=
    load_traverses files path (name.map .custom) s
  · rw [hok] at hresult
    cases hresult
    have hhead := htraverse.loaded_head
    rw [hloaded, show s.server.loaded.get? path = none from hunloaded] at hhead
    obtain ⟨order, hpreorder, hexplores⟩ :=
      htraverse.explores_preorder hcustom hlinked (hsettings ▸ hfollow) hunloaded
    refine ⟨Option.some.inj hhead, order, fun order' => ⟨fun h' => ?_, ?_⟩, hexplores⟩
    · exact h'.unique hpreorder
    · rintro rfl
      exact hpreorder
  · rw [hok] at hresult
    cases hresult

/-- Two files that ask for one another and, under two spellings of its path, for a third one; and a
fourth file. -/
def importsInRound : World :=
  ofFiles [("a.wgsl", "#import \"b.wgsl\"\n#import \"c.wgsl\"\n"),
    ("b.wgsl", "#import \"a.wgsl\"\n#import \"./c.wgsl\"\n#import \"d.wgsl\"\n"),
    ("c.wgsl", "c\n"), ("d.wgsl", "d\n")]

/-- The order in which the first file is loaded with all that follows from it, when the fourth one
is loaded already. -/
theorem load_order_of_round :
    ∃ server, (importsInRound.run [.load 0 "d.wgsl" none]).servers[0]? = some server ∧
      IsPreorder (server.asksNew (importsInRound.run [.load 0 "d.wgsl" none]).files) "a.wgsl"
        ["a.wgsl", "b.wgsl", "./c.wgsl", "c.wgsl"] := by
  have hnew : importsInRound.servers[0]? = some (.new (.ofText "") {}) := rfl
  have hserves : ∀ action ∈ [Action.load 0 "d.wgsl" none], action.Serves 0 := by
    simp [Action.Serves]
  have hrun : ((importsInRound.run [.load 0 "d.wgsl" none]).servers[0]?.map fun server =>
      let result := (Session.start (importsInRound.run [.load 0 "d.wgsl" none]).supply server).load
        (importsInRound.run [.load 0 "d.wgsl" none]).files "a.wgsl" none
      (server.loaded.get? "a.wgsl", result.2, result.1.events)) =
    some (none, .ok ⟨1⟩, [.loaded "a.wgsl" ⟨1⟩, .loaded "b.wgsl" ⟨2⟩, .loaded "./c.wgsl" ⟨3⟩,
      .loaded "c.wgsl" ⟨4⟩]) := by
    decide +kernel
  obtain ⟨server, hserver, -⟩ := run_linked hnew hserves
  rw [hserver, Option.map_some, Option.some.injEq] at hrun
  simp only [Prod.mk.injEq] at hrun
  obtain ⟨hunloaded, hok, hevents⟩ := hrun
  obtain ⟨-, -, hload⟩ := load_goes_by_preorder none hnew rfl hserves hserver hunloaded
  obtain ⟨-, order, hpreorder, hexplores⟩ := hload _ hok
  refine ⟨server, hserver, (hpreorder _).2 ?_⟩
  -- the events tell of the order
  have hinjective : Function.Injective fun entry : String × Handle =>
      Event.loaded entry.1 entry.2 := by
    rintro ⟨path, h⟩ ⟨path', h'⟩ heq
    cases heq
    rfl
  have hissue : Supply.issue _ order = [("a.wgsl", ⟨1⟩), ("b.wgsl", ⟨2⟩), ("./c.wgsl", ⟨3⟩),
      ("c.wgsl", ⟨4⟩)] :=
    List.map_injective_iff.2 hinjective (hexplores.events.symm.trans hevents)
  rw [← Supply.map_fst_issue _ order, hissue]
  rfl

end World

end ShaderPreprocessor
