/-
What loads that fail leave behind.

* `Session.Unwinds`: paths were entered up to one that does not become a shader. Those whose
  dependencies were not all loaded by then are dropped again, and the others stay;
* `Unwinds.refuse`, `Unwinds.after`, `Unwinds.drop`: a file that does not become a shader, a failure
  after paths that were entered, and an entered path dropped;
* `Unwinds.loaded_eq_some_iff`, `Unwinds.errors`: what is loaded then, and which errors were told;
* `Traverses.unwinds`: errands that fail leave this behind, with the paths in the order of a search
  that comes to the path at fault (the run);
* `World.failing_load_unwinds`: after any run, a load that fails does so for the first path in
  depth-first preorder that does not become a shader, and never because anything is missing that it
  is to change.
-/
import ShaderPreprocessor.Proofs.Loading.Guarded
import ShaderPreprocessor.Proofs.Loading.Interruption
import ShaderPreprocessor.Proofs.Loading.LoadOrder

namespace ShaderPreprocessor

open Session

/-! ### What is left behind -/

/-- From one session to another the paths of `front` were entered in order and then `bad` did not
become a shader, for an error; and the paths of `chain` among them were dropped again. -/
structure Session.Unwinds (files : FileTree) (s s' : Session) (front chain : List String)
    (bad : String) (e : LoadError) : Prop where
  /-- The files of the entered paths become shaders. -/
  read : ∀ path ∈ front, ∃ shader, s.read files path = .ok shader
  /-- The file at fault does not. -/
  fault : s.read files bad = .error e
  /-- None of these paths was loaded before. -/
  unloaded : ∀ path ∈ front ++ [bad], s.server.loaded.get? path = none
  /-- The entered paths have the handles that were next, unless they were dropped. -/
  kept : ∀ path h, (path, h) ∈ s.supply.issue front → path ∉ chain →
    s'.server.loaded.get? path = some h
  /-- The dropped paths are not loaded. -/
  dropped : ∀ path ∈ chain, s'.server.loaded.get? path = none
  /-- All other paths are as before. -/
  others : ∀ path, path ∉ front → s'.server.loaded.get? path = s.server.loaded.get? path
  /-- The entered paths and their handles were told of, and then the fault if it is in the file. -/
  events : s'.events = s.events ++
    ((s.supply.issue front).map fun entry => .loaded entry.1 entry.2) ++
      if e.isFileFault then [.loadFailed (s.server.fullPath bad) e] else []

namespace Session.Unwinds

variable {files : FileTree} {s s₁ s' : Session} {front chain : List String} {bad : String}
  {e : LoadError}

/-- A file that does not become a shader. -/
lemma refuse {path : String} (hnew : s.server.loaded.get? path = none)
    (hread : s.read files path = .error e) :
    s.Unwinds files (s.refuse path e) [] [] path e where
  read := by simp
  fault := hread
  unloaded := by simpa using hnew
  kept := by simp [Supply.issue]
  dropped := by simp
  others path' _ := by rw [refuse_server]
  events := by
    rw [Session.refuse]
    split <;> simp [Supply.issue]

/-- The path at fault was not entered. -/
lemma bad_not_mem (h : s.Unwinds files s' front chain bad e) : bad ∉ front := by
  intro hmem
  obtain ⟨shader, hread⟩ := h.read bad hmem
  rw [h.fault] at hread
  cases hread

/-- The path at fault is not loaded. -/
lemma bad_unloaded (h : s.Unwinds files s' front chain bad e) :
    s'.server.loaded.get? bad = none := by
  rw [h.others bad h.bad_not_mem, h.unloaded bad (by simp)]

/-- What was loaded before still is. -/
lemma keeps_loaded (h : s.Unwinds files s' front chain bad e) {path : String} {g : Handle}
    (hloaded : s.server.loaded.get? path = some g) : s'.server.loaded.get? path = some g := by
  rw [h.others path, hloaded]
  intro hmem
  rw [h.unloaded path (List.mem_append_left _ hmem)] at hloaded
  cases hloaded

/-- What is loaded in the end was so before, or was entered and not dropped. -/
lemma loaded_eq_some_iff (h : s.Unwinds files s' front chain bad e) {path : String} {g : Handle} :
    s'.server.loaded.get? path = some g ↔
      s.server.loaded.get? path = some g ∨ (path, g) ∈ s.supply.issue front ∧ path ∉ chain := by
  constructor
  · intro hloaded
    by_cases hmem : path ∈ front
    · obtain ⟨g', hg'⟩ := s.supply.exists_mem_issue.2 hmem
      have hkept : path ∉ chain := fun hdrop => by
        rw [h.dropped path hdrop] at hloaded
        cases hloaded
      rw [h.kept path g' hg' hkept, Option.some.injEq] at hloaded
      exact .inr ⟨hloaded ▸ hg', hkept⟩
    · rw [h.others path hmem] at hloaded
      exact .inl hloaded
  · rintro (hloaded | ⟨hmem, hkept⟩)
    · exact h.keeps_loaded hloaded
    · exact h.kept path g hmem hkept

/-- A failure after paths that were entered. -/
lemma after {errands : List Errand} {order : List String}
    (h : s₁.Unwinds files s' front chain bad e) (hexplores : s.Explores files errands s₁ order) :
    s.Unwinds files s' (order ++ front) chain bad e where
  read path hmem := by
    rcases List.mem_append.1 hmem with hmem | hmem
    · obtain ⟨g, hg⟩ := s.supply.exists_mem_issue.2 hmem
      obtain ⟨shader, -, hread, -⟩ := hexplores.stored path g hg
      exact ⟨shader, hread⟩
    · rw [← read_eq hexplores.settings_root]
      exact h.read path hmem
  fault := by rw [← read_eq hexplores.settings_root, h.fault]
  unloaded path hmem := by
    rw [List.append_assoc] at hmem
    rcases List.mem_append.1 hmem with hmem | hmem
    · obtain ⟨g, hg⟩ := s.supply.exists_mem_issue.2 hmem
      exact (hexplores.entered path g hg).1
    · exact (hexplores.loaded_eq_none_iff.1 (h.unloaded path hmem)).1
  kept path g hg hkept := by
    rw [Supply.issue_append, ← hexplores.supply] at hg
    rcases List.mem_append.1 hg with hg | hg
    · exact h.keeps_loaded (hexplores.entered path g hg).2
    · exact h.kept path g hg hkept
  dropped := h.dropped
  others path hmem := by
    rw [List.mem_append, not_or] at hmem
    rw [h.others path hmem.2, hexplores.others path hmem.1]
  events := by
    rw [h.events, hexplores.events, Supply.issue_append, ← hexplores.supply, List.map_append,
      Server.fullPath, Server.fullPath, hexplores.settings_root.2, List.append_assoc s.events]

/-- An entered path dropped. -/
lemma drop {path : String} {g : Handle} (h : s.Unwinds files s' front chain bad e)
    (hmem : path ∈ front) : s.Unwinds files (s'.unregister path g) front (path :: chain) bad e where
  read := h.read
  fault := h.fault
  unloaded := h.unloaded
  kept other g' hg' hkept := by
    rw [List.mem_cons, not_or] at hkept
    rw [unregister_loaded, if_neg (Ne.symm hkept.1), h.kept other g' hg' hkept.2]
  dropped other hdrop := by
    rw [unregister_loaded]
    split
    · rfl
    · next hne => exact h.dropped other ((List.mem_cons.1 hdrop).resolve_left (Ne.symm hne))
  others other hother := by
    have hne : path ≠ other := by
      rintro rfl
      exact hother hmem
    rw [unregister_loaded, if_neg hne, h.others other hother]
  events := h.events

/-- If nothing was told of before, the only error told of is a fault in the file. -/
lemma errors (h : s.Unwinds files s' front chain bad e) (hstart : s.events = []) :
    s'.events.filter (fun event => event.level = .error) =
      if e.isFileFault then [.loadFailed (s.server.fullPath bad) e] else [] := by
  have hloaded : ((s.supply.issue front).map fun entry => Event.loaded entry.1 entry.2).filter
      (fun event => event.level = .error) = [] := by
    rw [List.filter_eq_nil_iff]
    intro event hevent
    obtain ⟨entry, -, rfl⟩ := List.mem_map.1 hevent
    simp [Event.level]
  rw [h.events, hstart, List.nil_append, List.filter_append, hloaded, List.nil_append]
  split <;> simp [Event.level]

end Session.Unwinds

/-! ### Traversals that fail -/

namespace Traverses

variable {files : FileTree} {errands : List Errand} {s s' : Session} {r : Except LoadError Unit}

/-- Errands that fail enter paths in the order of a search that comes to a path at fault, and drop
those that the search has not finished with. -/
lemma unwinds {e : LoadError} (h : Traverses files errands s s' r) (hr : r = .error e)
    (hcustom : ∀ ref, Claims errands ref → ref.IsCustom) (hlinked : s.server.Linked s.supply)
    {base : Server} {seen : List String} (hsince : s.Since base seen) :
    ∃ front chain bad, s.Unwinds files s' front chain bad e ∧
      ComesTo (base.pursued files) seen (base.missing (errands.map Errand.path)) front chain
        bad := by
  induction h generalizing seen with
  | done => cases hr
  | @known errand errands s s' r g hloaded _ ih =>
      obtain ⟨front, chain, bad, hunwinds, hcomes⟩ :=
        ih hr (fun ref hclaim => hcustom ref hclaim.tail) hlinked hsince
      refine ⟨front, chain, bad, hunwinds, ?_⟩
      rw [List.map_cons]
      cases hbase : base.loaded.get? errand.path with
      | some g => rwa [Server.missing_cons_of_some hbase]
      | none =>
          rw [Server.missing_cons_of_none hbase]
          refine .pass ?_ hcomes
          by_contra hnot
          rw [(hsince.loaded_eq_none_iff _).2 ⟨hbase, hnot⟩] at hloaded
          cases hloaded
  | @refused errand errands s e' hnew hread =>
      cases hr
      obtain ⟨hbase, hunseen⟩ := (hsince.loaded_eq_none_iff _).1 hnew
      refine ⟨[], [], errand.path, .refuse hnew hread, ?_⟩
      rw [List.map_cons, Server.missing_cons_of_none hbase]
      exact .here hunseen
  | @entered errand errands s s₁ s' shader r hnew hread hdeps hrest _ ihrest =>
      obtain ⟨hbase, hunseen⟩ := (hsince.loaded_eq_none_iff _).1 hnew
      obtain ⟨henter, -⟩ := enter_errand shader hlinked hnew hcustom
      obtain ⟨below, hbelow, hvisits⟩ :=
        hdeps.explores rfl (custom_of_claims_dependencies s shader) henter
          (hsince.explores (.enter hlinked hcustom hnew hread))
      obtain ⟨hlinked₁, -⟩ := hdeps.linked_and_keeps_dependencies henter fun _ => False
      have hentered := Session.Explores.enter_below hlinked hcustom hnew hread hbelow
      obtain ⟨front, chain, bad, hunwinds, hcomes⟩ :=
        ihrest hr (fun ref hclaim => hcustom ref hclaim.tail) hlinked₁ (hsince.explores hentered)
      refine ⟨_, chain, bad, hunwinds.after hentered, ?_⟩
      rw [List.map_cons, Server.missing_cons_of_none hbase]
      refine .beyond hunseen ?_ hcomes
      rwa [Server.pursued_of_read hsince.settings_root hread, ← map_path_dependencies]
  | @givenUp errand errands s s₁ shader e' hnew hread hdeps ihdeps =>
      cases hr
      obtain ⟨hbase, hunseen⟩ := (hsince.loaded_eq_none_iff _).1 hnew
      obtain ⟨henter, -⟩ := enter_errand shader hlinked hnew hcustom
      have hentered : s.Explores files (errand :: errands) _ [errand.path] :=
        .enter hlinked hcustom hnew hread
      obtain ⟨front, chain, bad, hunwinds, hcomes⟩ :=
        ihdeps rfl (custom_of_claims_dependencies s shader) henter (hsince.explores hentered)
      rw [Session.giveUp, if_pos (isFileFault_of_dependencies hread hdeps)]
      refine ⟨errand.path :: front, errand.path :: chain, bad,
        (hunwinds.after hentered).drop List.mem_cons_self, ?_⟩
      rw [List.map_cons, Server.missing_cons_of_none hbase]
      refine .inside hunseen ?_
      rwa [Server.pursued_of_read hsince.settings_root hread, ← map_path_dependencies]

/-- The same for one errand: the search is for its path, which was not loaded. -/
lemma unwinds_from {path : String} {importPath : Option ImportRef} {e : LoadError}
    (h : Traverses files [⟨path, importPath⟩] s s' (.error e))
    (hcustom : ∀ ref, importPath = some ref → ref.IsCustom) (hlinked : s.server.Linked s.supply) :
    ∃ front chain bad, s.Unwinds files s' front chain bad e ∧
      ComesTo (s.server.pursued files) [] [path] front chain bad := by
  obtain ⟨front, chain, bad, hunwinds, hcomes⟩ :=
    h.unwinds rfl (custom_of_claims path hcustom) hlinked (.refl s)
  refine ⟨front, chain, bad, hunwinds, ?_⟩
  rw [List.map_singleton] at hcomes
  cases hloaded : s.server.loaded.get? path with
  | none => rwa [Server.missing_cons_of_none hloaded] at hcomes
  | some g =>
      rw [Server.missing_cons_of_some hloaded] at hcomes
      cases hcomes

end Traverses

/-! ### Paths that loads go on to -/

namespace Server

variable {server : Server} {files : FileTree}

/-- A load goes on to nothing but names that stand in the files. -/
lemma mem_names_of_pursued {path name : String} (h : name ∈ server.pursued files path) :
    name ∈ files.names server.settings := by
  rw [pursued] at h
  split at h
  · have hasks := List.mem_of_mem_filter h
    rw [asks] at hasks
    split at hasks
    · next shader hread => exact FileTree.mem_names hread hasks
    · cases hasks
  · cases h

/-- A search from a path for all that loads go on to ends. -/
lemma exists_visits (server : Server) (files : FileTree) (path : String) :
    ∃ order, Visits (server.pursued files) [] [path] order := by
  have hclosed : ∀ a ∈ insert path (files.names server.settings).toFinset,
      ∀ c ∈ server.pursued files a, c ∈ insert path (files.names server.settings).toFinset :=
    fun a _ c hc => Finset.mem_insert_of_mem (List.mem_toFinset.2 (mem_names_of_pursued hc))
  exact ShaderPreprocessor.exists_visits hclosed [] [path] (by simp)

end Server

namespace World

variable {world : World} {i : ℕ} {root : Path} {settings : Settings} {actions : List Action}

/-- **What a load that fails leaves behind.** After every run, a load of a path never misses
anything that it is to change in its tables. If it fails, it fails for a fault of the first path in
the depth-first preorder, of what it goes on to, that does not become a shader. This fault is
reported once, if it lies in the file, and no other is. What is loaded in the end was loaded before,
or was entered before the path at fault and finished with; the chain of entered paths that were not
finished with, which leads from the first path to the one at fault, is not loaded. -/
theorem failing_load_unwinds {server : Server} (path : String) (name : Option String)
    (hnew : world.servers[i]? = some (.new root settings))
    (hserves : ∀ action ∈ actions, action.Serves i)
    (hserver : (world.run actions).servers[i]? = some server) :
    let files := (world.run actions).files
    let s := Session.start (world.run actions).supply server
    let result := s.load files path (name.map .custom)
    s.loadGuarded files path (name.map .custom) = unbroken result ∧
    ∀ f, result.2 = .error f → ∃ e front bad back chain,
      f = .load e ∧
      (∀ order, IsPreorder (server.pursued files) path order ↔ order = front ++ bad :: back) ∧
      (∀ a ∈ front, ∃ shader, s.read files a = .ok shader) ∧ s.read files bad = .error e ∧
      (∀ front' chain', ComesTo (server.pursued files) [] [path] front' chain' bad ↔
        front' = front ∧ chain' = chain) ∧
      (chain ++ [bad]).head? = some path ∧
      (chain ++ [bad]).IsChain (fun a b => b ∈ server.pursued files a) ∧
      (∀ a h, result.1.server.loaded.get? a = some h ↔ server.loaded.get? a = some h ∨
        (a, h) ∈ s.supply.issue front ∧ a ∉ chain) ∧
      (∀ a ∈ chain ++ [bad], result.1.server.loaded.get? a = none) ∧
      result.1.events = ((s.supply.issue front).map fun entry => .loaded entry.1 entry.2) ++
        (if e.isFileFault then [.loadFailed (server.fullPath bad) e] else []) ∧
      result.1.events.filter (fun event => event.level = .error) =
        if e.isFileFault then [.loadFailed (server.fullPath bad) e] else [] := by
  intro files s result
  obtain ⟨hlinked, -, -⟩ := linked_of_run hnew hserves hserver
  have hcustom : ∀ ref, name.map ImportRef.custom = some ref → ref.IsCustom := by
    intro ref href
    obtain ⟨name', -, rfl⟩ := Option.map_eq_some_iff.1 href
    exact ⟨name', rfl⟩
  refine ⟨loadGuarded_eq path hcustom hlinked, fun f hf => ?_⟩
  obtain ⟨h, hresult, -⟩ | ⟨e, hresult, htraverse⟩ :=
    load_traverses files path (name.map .custom) s
  · rw [hf] at hresult
    cases hresult
  · rw [hf] at hresult
    cases hresult
    obtain ⟨front, chain, bad, hunwinds, hcomes⟩ := htraverse.unwinds_from hcustom hlinked
    obtain ⟨order, hvisits⟩ := server.exists_visits files path
    obtain ⟨back, rfl⟩ := hcomes.order_eq hvisits
    obtain ⟨a, ha, hhead, hchain⟩ := hcomes.exists_head
    cases List.mem_singleton.1 ha
    have hpreorder : ∀ order, IsPreorder (server.pursued files) path order ↔
        order = front ++ bad :: back := by
      refine fun order => ⟨fun h => h.unique hvisits.isPreorder, ?_⟩
      rintro rfl
      exact hvisits.isPreorder
    have hway : ∀ front' chain', ComesTo (server.pursued files) [] [path] front' chain' bad ↔
        front' = front ∧ chain' = chain := by
      refine fun front' chain' => ⟨fun h => h.unique hcomes, ?_⟩
      rintro ⟨rfl, rfl⟩
      exact hcomes
    have hunloaded : ∀ a ∈ chain ++ [bad], result.1.server.loaded.get? a = none := by
      intro a hmem
      rcases List.mem_append.1 hmem with hmem | hmem
      · exact hunwinds.dropped a hmem
      · cases List.mem_singleton.1 hmem
        exact hunwinds.bad_unloaded
    exact ⟨e, front, bad, back, chain, rfl, hpreorder, hunwinds.read, hunwinds.fault, hway, hhead,
      hchain, fun a h => hunwinds.loaded_eq_some_iff, hunloaded, hunwinds.events,
      hunwinds.errors rfl⟩

/-- A file that asks for two others, of which the second asks for the first one again and for a file
that does not exist; and a fourth file. -/
def brokenImport : World :=
  ofFiles [("main.wgsl", "#import \"x.wgsl\"\n#import \"y.wgsl\"\n"), ("x.wgsl", "x\n"),
    ("y.wgsl", "#import \"x.wgsl\"\n#import \"missing.wgsl\"\n"), ("z.wgsl", "z\n")]

/-- The first file and the second of the others are on the chain to the missing one, and are dropped
with their handles; the first of the others stays. -/
theorem failing_load_of_missing_file :
    ∃ server, (brokenImport.run [.load 0 "z.wgsl" none]).servers[0]? = some server ∧
      ∃ bad, ComesTo (server.pursued (brokenImport.run [.load 0 "z.wgsl" none]).files) []
        ["main.wgsl"] ["main.wgsl", "x.wgsl", "y.wgsl"] ["main.wgsl", "y.wgsl"] bad := by
  have hnew : brokenImport.servers[0]? = some (.new (.ofText "") {}) := rfl
  have hserves : ∀ action ∈ [Action.load 0 "z.wgsl" none], action.Serves 0 := by
    simp [Action.Serves]
  have hrun : ((brokenImport.run [.load 0 "z.wgsl" none]).servers[0]?.map fun server =>
      let result := (Session.start (brokenImport.run [.load 0 "z.wgsl" none]).supply server).load
        (brokenImport.run [.load 0 "z.wgsl" none]).files "main.wgsl" none
      (result.2, result.1.events, server.handle? "x.wgsl",
        ["main.wgsl", "x.wgsl", "y.wgsl"].map result.1.server.handle?)) =
    some (.error (.load (.access (.system .notFound (.ofText "missing.wgsl")))),
      [.loaded "main.wgsl" ⟨1⟩, .loaded "x.wgsl" ⟨2⟩, .loaded "y.wgsl" ⟨3⟩,
        .loadFailed (.ofText "missing.wgsl")
          (.access (.system .notFound (.ofText "missing.wgsl")))],
      none, [none, some ⟨2⟩, none]) := by
    decide +kernel
  obtain ⟨server, hserver, -⟩ := run_linked hnew hserves
  rw [hserver, Option.map_some, Option.some.injEq] at hrun
  simp only [Prod.mk.injEq] at hrun
  obtain ⟨hfails, hevents, hbefore, hafter⟩ := hrun
  obtain ⟨-, hload⟩ := failing_load_unwinds "main.wgsl" none hnew hserves hserver
  obtain ⟨e, front, bad, back, chain, heq, -, -, -, hcomes, -, -, hloaded, -, htold, -⟩ :=
    hload _ hfails
  cases heq
  -- the events tell which paths were entered
  have hinjective : Function.Injective fun entry : String × Handle =>
      Event.loaded entry.1 entry.2 := by
    rintro ⟨path, h⟩ ⟨path', h'⟩ heq
    cases heq
    rfl
  have htold' : (Supply.issue _ front).map (fun entry => Event.loaded entry.1 entry.2) ++
      [.loadFailed _ _] = [.loaded "main.wgsl" ⟨1⟩, .loaded "x.wgsl" ⟨2⟩, .loaded "y.wgsl" ⟨3⟩] ++
        [.loadFailed _ _] := htold.symm.trans hevents
  have hissue : Supply.issue _ front = [("main.wgsl", ⟨1⟩), ("x.wgsl", ⟨2⟩), ("y.wgsl", ⟨3⟩)] :=
    List.map_injective_iff.2 hinjective (List.append_inj' htold' rfl).1
  have hfront : front = ["main.wgsl", "x.wgsl", "y.wgsl"] := by
    rw [← Supply.map_fst_issue _ front, hissue]
    rfl
  subst hfront
  -- the handles tell which of them were dropped
  simp only [hissue] at hloaded
  simp only [List.map_cons, List.map_nil, List.cons.injEq, and_true] at hafter
  obtain ⟨hmain, hx, hy⟩ := hafter
  have hfound := (hcomes _ _).2 ⟨rfl, rfl⟩
  have hdropped : "main.wgsl" ∈ chain := by
    by_contra hkept
    have hstays := (hloaded "main.wgsl" ⟨1⟩).2 (.inr ⟨by simp, hkept⟩)
    exact absurd (hstays.symm.trans hmain) (by simp)
  have hkept : "x.wgsl" ∉ chain := by
    obtain hold | ⟨-, hkept⟩ := (hloaded "x.wgsl" ⟨2⟩).1 hx
    · exact absurd (hold.symm.trans hbefore) (by simp)
    · exact hkept
  have hdropped' : "y.wgsl" ∈ chain := by
    by_contra hkept
    have hstays := (hloaded "y.wgsl" ⟨3⟩).2 (.inr ⟨by simp, hkept⟩)
    exact absurd (hstays.symm.trans hy) (by simp)
  have hchain : ∀ l ∈ ["main.wgsl", "x.wgsl", "y.wgsl"].sublists, "main.wgsl" ∈ l →
      "x.wgsl" ∉ l → "y.wgsl" ∈ l → l = ["main.wgsl", "y.wgsl"] := by decide
  obtain rfl := hchain chain (List.mem_sublists.2 hfound.chain_sublist) hdropped hkept hdropped'
  exact ⟨server, hserver, bad, hfound⟩

end World

end ShaderPreprocessor
