/-
What loads that succeed leave behind: the paths that were entered, in the order in which they were.

* `Supply.issue`: paths with the handles that they get one after another;
* `Session.Explores`: paths were entered in some order, each of them read once, stored under the
  next handle and told of, and nothing else changed;
* `Explores.enter`, `Explores.trans`: one path entered, and one after another;
* `Server.asks`, `Server.asksNew`: the paths that the file of a path asks for, and those of them
  that are not loaded; `Server.pursued`: those that a load goes on to;
* `Traverses.explores`: errands that succeed enter paths in the order of a search for what is not
  loaded (the run).
-/
import ShaderPreprocessor.Proofs.Loading.DepthFirst
import ShaderPreprocessor.Proofs.Loading.Registration
import ShaderPreprocessor.Proofs.Shader.Reading

namespace ShaderPreprocessor

open Session

/-! ### Handles one after another -/

/-- Paths with the handles that are issued to them one after another. -/
def Supply.issue (supply : Supply) : List String → List (String × Handle)
  | [] => []
  | path :: paths => (path, supply.handle) :: issue supply.advance paths

/-- The supply after a number of handles. -/
def Supply.after (supply : Supply) (issued : ℕ) : Supply := ⟨supply.next + issued⟩

namespace Supply

lemma after_after (supply : Supply) (m n : ℕ) :
    (supply.after m).after n = supply.after (m + n) := by
  rw [after, after, after, Nat.add_assoc]

/-- Of two lists the second one gets the handles that follow those of the first. -/
lemma issue_append (supply : Supply) (paths paths' : List String) :
    supply.issue (paths ++ paths') =
      supply.issue paths ++ (supply.after paths.length).issue paths' := by
  induction paths generalizing supply with
  | nil => rfl
  | cons path paths ih =>
      have hnext : supply.advance.after paths.length = supply.after (path :: paths).length := by
        rw [List.length_cons, Nat.add_comm, ← after_after]
        rfl
      rw [List.cons_append, issue, ih, issue, List.cons_append, hnext]

/-- The paths that get a handle are those of the list, in the same order. -/
@[simp] lemma map_fst_issue (supply : Supply) (paths : List String) :
    (supply.issue paths).map Prod.fst = paths := by
  induction paths generalizing supply with
  | nil => rfl
  | cons path paths ih => rw [issue, List.map_cons, ih]

lemma exists_mem_issue (supply : Supply) {paths : List String} {path : String} :
    (∃ h, (path, h) ∈ supply.issue paths) ↔ path ∈ paths := by
  conv_rhs => rw [← supply.map_fst_issue paths, List.mem_map]
  simp

end Supply

/-! ### Paths that were entered -/

namespace Session

lemma enter_opened (s : Session) (path : String) (shader : Shader) :
    (s.enter path shader).opened = (s.noteOpened (s.server.fullPath path)).opened := rfl

/-- Servers that look for files in one place and read them in one way read the same. -/
lemma read_eq {s s' : Session} {files : FileTree} {path : String}
    (h : s'.server.settings = s.server.settings ∧ s'.server.root = s.server.root) :
    s'.read files path = s.read files path := by
  rw [read, read, Server.fullPath, Server.fullPath, h.1, h.2]

/-- The errands that a shader makes necessary are for the paths that it asks for. -/
lemma map_path_dependencies (s : Session) (shader : Shader) :
    (s.dependencies shader).map Errand.path = s.dependencyPaths shader :=
  map_path_unnamed _

end Session

/-- From one session to another paths were entered in an order, for some errands. -/
structure Session.Explores (files : FileTree) (errands : List Errand) (s s' : Session)
    (order : List String) : Prop where
  /-- Nothing is taken away but references that the errands claim. -/
  keeps : s.server.Keeps (Claims errands) s'.server
  /-- Files are looked for and read as before. -/
  settings_root : s'.server.settings = s.server.settings ∧ s'.server.root = s.server.root
  /-- A handle was issued for each path. -/
  supply : s'.supply = s.supply.after order.length
  /-- The paths were new, and have these handles. -/
  entered : ∀ path h, (path, h) ∈ s.supply.issue order →
    s.server.loaded.get? path = none ∧ s'.server.loaded.get? path = some h
  /-- All other paths are as before. -/
  others : ∀ path, path ∉ order → s'.server.loaded.get? path = s.server.loaded.get? path
  /-- What their files are read as is stored under these handles. -/
  stored : ∀ path h, (path, h) ∈ s.supply.issue order →
    ∃ shader importPath, s.read files path = .ok shader ∧
      s'.server.library.shaders.get? h = some { shader with importPath := importPath } ∧
      ∀ ref, importPath = some ref → Claims errands ref
  /-- References stand for something else only if they are claimed, or name one of the paths. -/
  bound : ∀ ref g, s'.server.library.imports.get? ref = some g →
    s.server.library.imports.get? ref = some g ∨ Claims errands ref ∨
      ∃ path ∈ order, ref = .asset path
  /-- The paths and their handles were told of. -/
  events : s'.events = s.events ++ (s.supply.issue order).map fun entry => .loaded entry.1 entry.2
  /-- Their files were opened. -/
  opened : s'.opened = s.opened ++ order.map s.server.fullPath

namespace Session.Explores

variable {files : FileTree} {errands errands' : List Errand} {s s₁ s' : Session}
  {order order' : List String}

/-- Nothing entered. -/
lemma refl (files : FileTree) (errands : List Errand) (s : Session) :
    s.Explores files errands s [] where
  keeps := .refl _ _
  settings_root := ⟨rfl, rfl⟩
  supply := rfl
  entered := by simp [Supply.issue]
  others _ _ := rfl
  stored := by simp [Supply.issue]
  bound _ _ href := .inl href
  events := by simp [Supply.issue]
  opened := by simp

/-- More may be claimed. -/
lemma imp (h : s.Explores files errands s' order)
    (hclaims : ∀ ref, Claims errands ref → Claims errands' ref) :
    s.Explores files errands' s' order where
  keeps := h.keeps.imp hclaims
  settings_root := h.settings_root
  supply := h.supply
  entered := h.entered
  others := h.others
  stored path g hg := by
    obtain ⟨shader, importPath, hread, hstored, himport⟩ := h.stored path g hg
    exact ⟨shader, importPath, hread, hstored, fun ref href => hclaims ref (himport ref href)⟩
  bound ref g hg := (h.bound ref g hg).imp_right (Or.imp_left (hclaims ref))
  events := h.events
  opened := h.opened

/-- A path is not loaded in the end exactly if it was not before and was not entered. -/
lemma loaded_eq_none_iff (h : s.Explores files errands s' order) {path : String} :
    s'.server.loaded.get? path = none ↔ s.server.loaded.get? path = none ∧ path ∉ order := by
  by_cases hmem : path ∈ order
  · obtain ⟨g, hg⟩ := (s.supply.exists_mem_issue).2 hmem
    simp [(h.entered path g hg).2, hmem]
  · simp [h.others path hmem, hmem]

/-- One path entered. -/
lemma enter {errand : Errand} {shader : Shader} (hlinked : s.server.Linked s.supply)
    (hcustom : ∀ ref, Claims (errand :: errands) ref → ref.IsCustom)
    (hnew : s.server.loaded.get? errand.path = none)
    (hread : s.read files errand.path = .ok shader) :
    s.Explores files (errand :: errands)
      (s.enter errand.path { shader with importPath := errand.importPath }) [errand.path] where
  keeps := (enter_errand shader hlinked hnew hcustom).2
  settings_root := ⟨enter_settings _ _ _, enter_root _ _ _⟩
  supply := enter_supply _ _ _
  entered path h hmem := by
    cases List.mem_singleton.1 hmem
    exact ⟨hnew, by rw [enter_loaded, if_pos rfl]⟩
  others path hmem := by
    rw [enter_loaded, if_neg fun heq => hmem (by simp [heq])]
  stored path h hmem := by
    cases List.mem_singleton.1 hmem
    exact ⟨shader, errand.importPath, hread, by rw [enter_shaders, if_pos rfl],
      fun ref href => claims_head href⟩
  bound ref g hg := by
    rw [enter_imports] at hg
    split at hg
    · next hnamed =>
        refine .inr ?_
        obtain hasset | hclaim := hnamed
        · exact .inr ⟨errand.path, by simp, hasset.symm⟩
        · exact .inl (claims_head hclaim)
    · exact .inl hg
  events := enter_events _ _ _
  opened := by
    rw [enter_opened, noteOpened, if_pos (Settings.isSome_format_of_readShader hread)]
    rfl

/-- Paths entered one after another. -/
lemma trans (h : s.Explores files errands s₁ order) (h' : s₁.Explores files errands s' order') :
    s.Explores files errands s' (order ++ order') where
  keeps := h.keeps.trans h'.keeps
  settings_root :=
    ⟨h'.settings_root.1.trans h.settings_root.1, h'.settings_root.2.trans h.settings_root.2⟩
  supply := by rw [h'.supply, h.supply, Supply.after_after, List.length_append]
  entered path g hg := by
    rw [Supply.issue_append, ← h.supply, List.mem_append] at hg
    obtain hg | hg := hg
    · obtain ⟨hnew, hloaded⟩ := h.entered path g hg
      exact ⟨hnew, h'.keeps.loaded path g hloaded⟩
    · obtain ⟨hnew, hloaded⟩ := h'.entered path g hg
      exact ⟨(h.loaded_eq_none_iff.1 hnew).1, hloaded⟩
  others path hmem := by
    rw [List.mem_append, not_or] at hmem
    rw [h'.others path hmem.2, h.others path hmem.1]
  stored path g hg := by
    rw [Supply.issue_append, ← h.supply, List.mem_append] at hg
    obtain hg | hg := hg
    · obtain ⟨shader, importPath, hread, hstored, himport⟩ := h.stored path g hg
      exact ⟨shader, importPath, hread, h'.keeps.stored g _ hstored, himport⟩
    · rw [← read_eq h.settings_root]
      exact h'.stored path g hg
  bound ref g hg := by
    obtain hbefore | hclaim | ⟨path, hmem, hasset⟩ := h'.bound ref g hg
    · obtain hbefore | hclaim | ⟨path, hmem, hasset⟩ := h.bound ref g hbefore
      · exact .inl hbefore
      · exact .inr (.inl hclaim)
      · exact .inr (.inr ⟨path, List.mem_append_left _ hmem, hasset⟩)
    · exact .inr (.inl hclaim)
    · exact .inr (.inr ⟨path, List.mem_append_right _ hmem, hasset⟩)
  events := by
    rw [h'.events, h.events, Supply.issue_append, List.map_append, ← h.supply, List.append_assoc]
  opened := by
    have hpath : s₁.server.fullPath = s.server.fullPath := by
      funext path
      rw [Server.fullPath, Server.fullPath, h.settings_root.2]
    rw [h'.opened, h.opened, hpath, List.map_append, List.append_assoc]

/-- One path entered, and then its dependencies. -/
lemma enter_below {errand : Errand} {shader : Shader} {below : List String}
    (hlinked : s.server.Linked s.supply)
    (hcustom : ∀ ref, Claims (errand :: errands) ref → ref.IsCustom)
    (hnew : s.server.loaded.get? errand.path = none)
    (hread : s.read files errand.path = .ok shader)
    (hbelow : (s.enter errand.path { shader with importPath := errand.importPath }).Explores files
      (s.dependencies shader) s₁ below) :
    s.Explores files (errand :: errands) s₁ (errand.path :: below) :=
  (enter hlinked hcustom hnew hread).trans (hbelow.imp fun ref hclaim =>
    absurd hclaim (not_claims_dependencies s shader ref))

end Session.Explores

/-! ### What files ask for -/

namespace Server

/-- The paths that the file of a path asks for; none if the file does not become a shader. -/
def asks (server : Server) (files : FileTree) (path : String) : List String :=
  match server.settings.readShader files (server.fullPath path) with
  | .ok shader => assetPaths shader.imports
  | .error _ => []

/-- The paths among others that are not loaded. -/
def missing (server : Server) (paths : List String) : List String :=
  paths.filter fun path => (server.loaded.get? path).isNone

/-- The paths that the file of a path asks for and that are not loaded. -/
def asksNew (server : Server) (files : FileTree) (path : String) : List String :=
  server.missing (server.asks files path)

/-- The paths that a load of a path goes on to: those that its file asks for and that are not
loaded, or none if imports are not followed. -/
def pursued (server : Server) (files : FileTree) (path : String) : List String :=
  if server.settings.followImports then server.asksNew files path else []

variable {server : Server} {files : FileTree} {path : String} {paths : List String}

lemma missing_cons_of_none (h : server.loaded.get? path = none) :
    server.missing (path :: paths) = path :: server.missing paths :=
  List.filter_cons_of_pos (by simp [h])

lemma missing_cons_of_some {g : Handle} (h : server.loaded.get? path = some g) :
    server.missing (path :: paths) = server.missing paths :=
  List.filter_cons_of_neg (by simp [h])

/-- What a shader asks for that was read from the file of a path is what the file asks for. -/
lemma asks_of_read {s : Session} {shader : Shader}
    (h : s.server.settings = server.settings ∧ s.server.root = server.root)
    (hread : s.read files path = .ok shader) :
    server.asks files path = assetPaths shader.imports := by
  rw [Session.read, fullPath, h.1, h.2] at hread
  rw [asks, fullPath, hread]

lemma pursued_of_follow (hfollow : server.settings.followImports = true) :
    server.pursued files = server.asksNew files :=
  funext fun _ => if_pos hfollow

/-- After the file of a path was read, a load goes on to what is missing of the dependencies. -/
lemma pursued_of_read {s : Session} {shader : Shader}
    (h : s.server.settings = server.settings ∧ s.server.root = server.root)
    (hread : s.read files path = .ok shader) :
    server.pursued files path = server.missing (s.dependencyPaths shader) := by
  rw [pursued, Session.dependencyPaths, h.1]
  split
  · rw [asksNew, asks_of_read h hread]
  · rfl

end Server

/-! ### Traversals that succeed -/

/-- What the loads of a session have entered since a server was as it was. -/
structure Session.Since (base : Server) (seen : List String) (s : Session) : Prop where
  /-- Files are looked for and read as they were. -/
  settings_root : s.server.settings = base.settings ∧ s.server.root = base.root
  /-- What is not loaded was not loaded, and was not entered since. -/
  loaded_eq_none_iff : ∀ path,
    s.server.loaded.get? path = none ↔ base.loaded.get? path = none ∧ path ∉ seen

namespace Session.Since

variable {base : Server} {seen order : List String} {files : FileTree} {errands : List Errand}
  {s s' : Session}

lemma refl (s : Session) : s.Since s.server [] := ⟨⟨rfl, rfl⟩, by simp⟩

/-- What is entered more was entered since. -/
lemma explores (h : s.Since base seen) (hexplores : s.Explores files errands s' order) :
    s'.Since base (seen ++ order) := by
  refine ⟨⟨?_, ?_⟩, fun path => ?_⟩
  · rw [hexplores.settings_root.1, h.settings_root.1]
  · rw [hexplores.settings_root.2, h.settings_root.2]
  · rw [hexplores.loaded_eq_none_iff, h.loaded_eq_none_iff, List.mem_append, not_or, and_assoc]

end Session.Since

namespace Traverses

variable {files : FileTree} {errands : List Errand} {s s' : Session} {r : Except LoadError Unit}

/-- Errands that succeed enter paths, in the order of a search for the paths of the errands that
passes over what is loaded and what was seen before. -/
lemma explores (h : Traverses files errands s s' r) (hr : r = .ok ())
    (hcustom : ∀ ref, Claims errands ref → ref.IsCustom) (hlinked : s.server.Linked s.supply)
    {base : Server} {seen : List String} (hsince : s.Since base seen) :
    ∃ order, s.Explores files errands s' order ∧
      Visits (base.pursued files) seen (base.missing (errands.map Errand.path)) order := by
  induction h generalizing seen with
  | done s => exact ⟨[], .refl _ _ _, .done _⟩
  | @known errand errands s s' r g hloaded _ ih =>
      obtain ⟨order, hexplores, hvisits⟩ :=
        ih hr (fun ref hclaim => hcustom ref hclaim.tail) hlinked hsince
      refine ⟨order, hexplores.imp fun ref => Claims.tail, ?_⟩
      rw [List.map_cons]
      cases hbase : base.loaded.get? errand.path with
      | some g => rwa [Server.missing_cons_of_some hbase]
      | none =>
          rw [Server.missing_cons_of_none hbase]
          refine .pass ?_ hvisits
          by_contra hnot
          rw [(hsince.loaded_eq_none_iff _).2 ⟨hbase, hnot⟩] at hloaded
          cases hloaded
  | refused => cases hr
  | @entered errand errands s s₁ s' shader r hnew hread hdeps hrest ihdeps ihrest =>
      obtain ⟨hbase, hunseen⟩ := (hsince.loaded_eq_none_iff _).1 hnew
      obtain ⟨henter, -⟩ := enter_errand shader hlinked hnew hcustom
      obtain ⟨below, hbelow, hvisits⟩ :=
        ihdeps rfl (custom_of_claims_dependencies s shader) henter
          (hsince.explores (.enter hlinked hcustom hnew hread))
      obtain ⟨hlinked₁, -⟩ := hdeps.linked_and_keeps_dependencies henter fun _ => False
      have hentered := Session.Explores.enter_below hlinked hcustom hnew hread hbelow
      obtain ⟨rest, hrest, hvisits'⟩ :=
        ihrest hr (fun ref hclaim => hcustom ref hclaim.tail) hlinked₁ (hsince.explores hentered)
      refine ⟨_, hentered.trans (hrest.imp fun ref => Claims.tail), ?_⟩
      rw [List.map_cons, Server.missing_cons_of_none hbase]
      refine .enter hunseen ?_ hvisits'
      rwa [Server.pursued_of_read hsince.settings_root hread, ← map_path_dependencies]
  | givenUp => cases hr

end Traverses

end ShaderPreprocessor
